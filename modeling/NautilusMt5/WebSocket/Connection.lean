import NautilusMt5.Lib.Incremental
import NautilusMt5.Lib.Loop
import NautilusMt5.Lib.MqlBytes
import NautilusMt5.WebSocket.Frame

/-!
# Connections (`WebSocket/message.mqh`, `WebSocket/protocol.mqh`, `WebSocket/transport.mqh`)

`WebSocketMessage` without compression on its way out, the socket below a connection, and `WebSocketConnectionHybi`. The
calls to the observer are recorded; what it does with them is not part of the connection.
-/

namespace NautilusMt5.WebSocket

/-- What MetaTrader does with bytes, and its random numbers. -/
structure Platform where
  /-- `CharArrayToString` of bytes that are not UTF-8. -/
  garbled : Data → List Char
  /-- `CryptDecode(CRYPT_ARCH_ZIP, ..)`; `none` when it fails. -/
  inflate : Data → Option Data
  /-- The masking key of the `n`th frame. -/
  keys : ℕ → ℕ

/-! ## Messages -/

/-- `WebSocketMessage`. -/
structure Message where
  compressed : Bool := false
  frames : List Frame := []
  deriving DecidableEq, Repr

namespace Message

/-- `isFinalised`. -/
def isFinalised (m : Message) : Bool := m.frames.getLast?.any (·.fin)

/-- `takeFrame`. -/
def takeFrame (m : Message) (f : Frame) : Message := { m with frames := m.frames ++ [f] }

/-- `extract`. -/
def extract (p : Platform) (m : Message) : Option Data :=
  if m.isFinalised then
    let data := m.frames.flatMap (·.payloadData)
    some (if m.compressed then (p.inflate data).getD data else data)
  else none

/-- `getString`. -/
def getString (p : Platform) (m : Message) : Option (List Char) := (m.extract p).map (Mql.charArrayToString p.garbled)

/-- `setString` and `compose`. -/
def setString (d : List Char) : Message := { frames := [Frame.create Opcode.textFrame (Mql.utf8 d)] }

end Message

/-! ## The socket -/

/-- `MqlWebSocketTransport`. -/
structure Socket where
  connected : Bool := true
  /-- What the next calls of `SocketSend` return: how many bytes they take, or `none` when they fail. The calls behind
  them take all that they are given. -/
  sends : List (Option ℕ) := []
  /-- The bytes that went out. -/
  out : Data := []
  deriving DecidableEq, Repr

/-- The loop of `writePacketToNet` over what is left of the data: the bytes that went out, whether that was all of them,
and the calls that are still to come. -/
def writeLoop : List (Option ℕ) → Data → Data × Bool × List (Option ℕ)
  | sends, [] => ([], true, sends)
  | some fwrite :: sends, data =>
    let r := writeLoop sends (data.drop fwrite)
    (data.take fwrite ++ r.1, r.2)
  | none :: sends, _ => ([], false, sends)
  | [], data => (data, true, [])

namespace Socket

/-- `writePacketToNet`. -/
def writePacketToNet (s : Socket) (data : Data) : ℕ × Socket :=
  if s.connected then
    let r := writeLoop s.sends data
    (if r.2.1 then data.length else 0, { s with sends := r.2.2, out := s.out ++ r.1 })
  else (0, s)

end Socket

/-! ## The connection -/

/-- A call to the observer. -/
inductive Call
  | onMessage (m : Message)
  | onDisconnect
  deriving DecidableEq, Repr

/-- `WebSocketConnectionHybi`. -/
structure Connection where
  socket : Socket := {}
  /-- The frames that have been encoded. -/
  encoded : ℕ := 0
  openMessage : Option Message := none
  lastFrame : Option Frame := none
  closeRequested : Bool := false
  disconnecting : Bool := false
  tail : Data := []
  deriving DecidableEq, Repr

namespace Connection

variable (p : Platform)

/-- `close`. -/
def close (c : Connection) : Connection × List Call :=
  if c.disconnecting then (c, [])
  else ({ c with disconnecting := true, socket := { c.socket with connected := false } }, [.onDisconnect])

/-- `sendFrame`. -/
def sendFrame (c : Connection) (f : Frame) : Bool × Connection :=
  let r := c.socket.writePacketToNet (f.encode (p.keys c.encoded)).1
  let sent : Bool := r.1 ≠ 0
  (sent,
    { c with
        socket := r.2
        encoded := c.encoded + 1
        closeRequested := c.closeRequested || (sent && f.opcode == Opcode.closeFrame) })

/-- `sendMessage`. -/
def sendFrames : Connection → List Frame → Bool × Connection
  | c, [] => (true, c)
  | c, f :: frames =>
    let r := c.sendFrame p f
    if r.1 then sendFrames r.2 frames else r

/-- The message that takes a frame in `processMessageFrame`. -/
def takenBy (openMessage : Option Message) (f : Frame) : Message :=
  match openMessage with
  | some m => if m.isFinalised then ({ compressed := f.rsv1 } : Message).takeFrame f else m.takeFrame f
  | none => ({ compressed := f.rsv1 } : Message).takeFrame f

/-- `processMessageFrame`. -/
def processMessageFrame (c : Connection) (f : Frame) : Connection × List Call :=
  let openMessage := takenBy c.openMessage f
  if openMessage.isFinalised then ({ c with openMessage := none }, [.onMessage openMessage])
  else ({ c with openMessage := some openMessage }, [])

/-- The pong for a ping: its payload is made of the string that `getData` reads. -/
def pong (f : Frame) : Frame :=
  Frame.create Opcode.pongFrame (Mql.lowBytes (Mql.charArrayToString p.garbled f.payloadData))

/-- The first half of what `processControlFrame` does with a close frame: it is answered unless it is an answer. -/
def ackClose (c : Connection) : Connection × List Call :=
  if c.closeRequested then (c, [])
  else if c.disconnecting then (c, [])
  else
    (({ c with openMessage := none }.sendFrame p { opcode := Opcode.closeFrame }).2,
      (c.openMessage.map Call.onMessage).toList)

/-- `processControlFrame`. -/
def processControlFrame (c : Connection) (f : Frame) : Connection × List Call :=
  if f.opcode = Opcode.closeFrame then
    let r := c.ackClose p
    (r.1.close.1, r.2 ++ r.1.close.2)
  else if f.opcode = Opcode.pingFrame then ((c.sendFrame p (pong p f)).2, [])
  else (c, [])

/-- What `readFrame` does with a frame that is ready, and whether it was the last. -/
def processFrame (c : Connection) (f : Frame) : (Connection × Bool) × List Call :=
  if f.isControlFrame then
    let r := c.processControlFrame p f
    ((r.1, f.opcode == Opcode.closeFrame), r.2)
  else
    let r := c.processMessageFrame f
    ((r.1, false), r.2)

/-- The connection, `closed`, the calls so far and `data`. -/
abbrev ReadState := (Connection × Bool) × List Call × Data

/-- One round of `readFrame`; its result is `none` when the program stops. -/
def readFrameStep : ReadState → Loop.Step ReadState (Option (Connection × List Call))
  | ((c, closed), calls, data) =>
    if data = [] ∨ closed then .done (some (c, calls))
    else
      match Frame.decode data c.lastFrame with
      | .insufficient => .done (some (c, calls))
      | .outOfRange => .done none
      | .frame f rest =>
        if f.isReady then
          let r := c.processFrame p f
          .next (({ r.1.1 with lastFrame := none }, r.1.2), calls ++ r.2, rest)
        else .next (({ c with lastFrame := some f }, false), calls, rest)

/-- `readPacketFromNet`, where the socket has `packet` and is `connected` after that. -/
def readPacketFromNet (c : Connection) (packet : Data) (connected : Bool) : (Connection × List Call) × Data :=
  if c.socket.connected then (if connected then (c, []) else c.close, packet) else (c.close, [])

/-- `readFrame` returns, after these calls. -/
def ReadFrame (c : Connection) (packet : Data) (connected : Bool) (r : Option (Connection × List Call)) : Prop :=
  let start := if c.tail = [] then c.readPacketFromNet packet connected else (({ c with tail := [] }, []), c.tail)
  Loop.Returns (readFrameStep p) ((start.1.1, false), start.1.2, start.2) r

/-! ## What stays -/

variable {p} (c : Connection) (f : Frame) (l : Option Frame)

theorem connected_writePacketToNet (s : Socket) (data : Data) :
    (s.writePacketToNet data).2.connected = s.connected := by
  unfold Socket.writePacketToNet
  split <;> rfl

@[simp] theorem connected_sendFrame : (c.sendFrame p f).2.socket.connected = c.socket.connected :=
  connected_writePacketToNet _ _

@[simp] theorem disconnecting_sendFrame : (c.sendFrame p f).2.disconnecting = c.disconnecting := rfl

@[simp] theorem tail_sendFrame : (c.sendFrame p f).2.tail = c.tail := rfl

theorem sendFrame_lastFrame : { c with lastFrame := l }.sendFrame p f =
    ((c.sendFrame p f).1, { (c.sendFrame p f).2 with lastFrame := l }) := rfl

theorem ackClose_frame : (c.ackClose p).1.socket.connected = c.socket.connected ∧
    (c.ackClose p).1.disconnecting = c.disconnecting ∧ (c.ackClose p).1.tail = c.tail := by
  unfold ackClose
  split_ifs <;> simp

theorem ackClose_lastFrame : { c with lastFrame := l }.ackClose p =
    ({ (c.ackClose p).1 with lastFrame := l }, (c.ackClose p).2) := by
  unfold ackClose
  split_ifs <;> rfl

theorem close_lastFrame :
    { c with lastFrame := l }.close = ({ c.close.1 with lastFrame := l }, c.close.2) := by
  unfold close
  split <;> rfl

theorem processControlFrame_lastFrame : { c with lastFrame := l }.processControlFrame p f =
    ({ (c.processControlFrame p f).1 with lastFrame := l }, (c.processControlFrame p f).2) := by
  unfold processControlFrame
  split_ifs
  · simp only [ackClose_lastFrame, close_lastFrame]
  · simp only [sendFrame_lastFrame]
  · rfl

theorem processMessageFrame_lastFrame : { c with lastFrame := l }.processMessageFrame f =
    ({ (c.processMessageFrame f).1 with lastFrame := l }, (c.processMessageFrame f).2) := by
  simp only [processMessageFrame]
  split_ifs <;> rfl

/-- A frame is processed whatever frame came in pieces last. -/
theorem processFrame_lastFrame : { c with lastFrame := l }.processFrame p f =
    (({ (c.processFrame p f).1.1 with lastFrame := l }, (c.processFrame p f).1.2), (c.processFrame p f).2) := by
  unfold processFrame
  split
  · simp only [processControlFrame_lastFrame]
  · simp only [processMessageFrame_lastFrame]

/-! ## Sends that succeed -/

/-- No call of `SocketSend` fails. -/
def Flows : Prop := none ∉ c.socket.sends

variable {c}

/-- Then everything goes out, in whatever parts. -/
theorem writeLoop_of_flows {sends : List (Option ℕ)} (h : none ∉ sends) (data : Data) :
    (writeLoop sends data).2.1 = true ∧ none ∉ (writeLoop sends data).2.2 := by
  induction sends generalizing data with
  | nil => cases data <;> exact ⟨rfl, h⟩
  | cons send sends ih =>
    obtain ⟨hsend, hsends⟩ := not_or.mp (List.mem_cons.not.mp h)
    cases data with
    | nil => exact ⟨rfl, h⟩
    | cons b data =>
      cases send with
      | none => exact absurd rfl hsend
      | some fwrite => exact ih hsends _

theorem flows_sendFrame (h : c.Flows) (f : Frame) : (c.sendFrame p f).2.Flows := by
  show none ∉ (c.socket.writePacketToNet _).2.sends
  unfold Socket.writePacketToNet
  split
  · exact (writeLoop_of_flows h _).2
  · exact h

theorem sent_of_flows (h : c.Flows) (hconnected : c.socket.connected = true) (f : Frame) :
    (c.sendFrame p f).1 = true := by
  have hne : (f.encode (p.keys c.encoded)).1 ≠ [] := List.cons_ne_nil _ _
  simp [sendFrame, Socket.writePacketToNet, hconnected, (writeLoop_of_flows h _).1, hne]

theorem flows_ackClose (h : c.Flows) : (c.ackClose p).1.Flows := by
  unfold ackClose
  split_ifs
  · exact h
  · exact h
  · exact flows_sendFrame (c := { c with openMessage := none }) h _

theorem flows_close (h : c.Flows) : c.close.1.Flows := by
  unfold close
  split <;> exact h

theorem flows_processFrame (h : c.Flows) (f : Frame) : (c.processFrame p f).1.1.Flows := by
  unfold processFrame
  split
  · unfold processControlFrame
    split_ifs
    · exact flows_close (flows_ackClose h)
    · exact flows_sendFrame h _
    · exact h
  · simp only [processMessageFrame]
    split_ifs <;> exact h

/-! ## Between two calls -/

/-- Between two rounds of `readFrame`: closed at the level of the protocol is closed at the level of the socket. -/
structure Steady (s : Connection × Bool) : Prop where
  tail : s.1.tail = []
  connected : s.1.socket.connected = !s.2
  disconnecting : s.1.disconnecting = s.2

variable {f}

/-- Every frame keeps it. -/
theorem steady_processFrame (h : Steady (c, false)) : Steady (c.processFrame p f).1 := by
  have htail : c.tail = [] := h.tail
  have hconnected : c.socket.connected = true := h.connected
  have hdisconnecting : c.disconnecting = false := h.disconnecting
  unfold processFrame
  split
  · unfold processControlFrame
    split_ifs with hclose hping
    · obtain ⟨-, hack, hackTail⟩ := c.ackClose_frame (p := p)
      rw [hdisconnecting] at hack
      rw [htail] at hackTail
      exact ⟨by simp [close, hack, hackTail], by simp [close, hack, hclose], by simp [close, hack, hclose]⟩
    · exact ⟨htail, by simp [hconnected, hclose], by simp [hdisconnecting, hclose]⟩
    · exact ⟨htail, by simp [hconnected, hclose], by simp [hdisconnecting, hclose]⟩
  · simp only [processMessageFrame]
    split_ifs <;> exact ⟨htail, hconnected, hdisconnecting⟩

end Connection

end NautilusMt5.WebSocket
