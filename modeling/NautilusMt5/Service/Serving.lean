import NautilusMt5.Feed.Connections
import NautilusMt5.Service.Dispatch
import NautilusMt5.WebSocket.Delivery

/-!
# The Service on its connection (`NT5TickFeedService.mq5`, `WebSocket/client.mqh`)

`CNT5FeedWebSocket` observes its connection. It handles a message in the middle of `readFrame`, and its answers go out
on the connection that is being read. As long as they do go out, they change nothing of what is read
(`serves_of_reads`). So the bytes that the adapter sends do to the subscriptions what its commands do
(`commands_served`), up to a close frame (`close_served`).

A send that fails is followed by `disconnect`, which reads on from within the message. What comes of that is not
followed here: there the calls below have no result.
-/

namespace NautilusMt5

open WebSocket

/-- The Service: its connection and its subscriptions. -/
structure FeedService where
  connection : Connection
  subscriptions : ServiceSubscriptions

/-! ## The observer -/

namespace FeedService

variable (p : Platform) (t : ServiceTerminal) (session : List Char)

/-- `WebSocketClient.send` for each text, while the socket is connected; `none` when a send fails. -/
def sendTexts (c : Connection) (texts : List (List Char)) : Option Connection :=
  texts.foldlM (fun c text =>
    if c.socket.connected then
      let r := c.sendFrames p (Message.setString text).frames
      if r.1 then some r.2 else none
    else some c) c

/-- `onMessage` and `onDisconnect`; in a message that is not finished there is no text. -/
def hear (s : FeedService) : Call → Option FeedService
  | .onMessage m =>
    match m.getString p with
    | none => some s
    | some json =>
      let r := t.nt5HandleWireMessage session s.subscriptions json
      (sendTexts p s.connection r.2).map fun c => ⟨c, r.1⟩
  | .onDisconnect => some { s with subscriptions := s.subscriptions.nt5ClearActiveBarSubscriptions }

/-- One round of `readFrame`, with the calls to the Service in it; its result is `none` when the program stops, or a
send fails. -/
def serveStep : (FeedService × Bool) × Data → Loop.Step ((FeedService × Bool) × Data) (Option FeedService)
  | ((s, closed), data) =>
    if data = [] ∨ closed then .done (some s)
    else
      match Frame.decode data s.connection.lastFrame with
      | .insufficient => .done (some s)
      | .outOfRange => .done none
      | .frame f rest =>
        if f.isReady then
          let r := s.connection.processFrame p f
          match r.2.foldlM (hear p t session) { s with connection := r.1.1 } with
          | none => .done none
          | some s' => .next (({ s' with connection := { s'.connection with lastFrame := none } }, r.1.2), rest)
        else .next (({ s with connection := { s.connection with lastFrame := some f } }, false), rest)

/-- `checkMessages` returns, where the socket has `packet` and stays connected. -/
def CheckMessages (s : FeedService) (packet : Data) (r : Option FeedService) : Prop :=
  let c := s.connection
  let start := if c.tail = [] then c.readPacketFromNet packet true else (({ c with tail := [] }, []), c.tail)
  match start.1.2.foldlM (hear p t session) { s with connection := start.1.1 } with
  | none => r = none
  | some s' => Loop.Returns (serveStep p t session) ((s', false), start.2) r

/-- The calls of `checkMessages`, one for each piece. -/
def Serves : List Data → FeedService → FeedService → Prop
  | [], s, s' => s' = s
  | piece :: pieces, s, s' => ∃ s₁, s.CheckMessages p t session piece (some s₁) ∧ Serves pieces s₁ s'

/-- What a call does to the subscriptions. -/
def heard (sv : ServiceSubscriptions) : Call → ServiceSubscriptions
  | .onMessage m => (m.getString p).elim sv fun json => (t.nt5HandleWireMessage session sv json).1
  | .onDisconnect => sv.nt5ClearActiveBarSubscriptions

end FeedService

/-! ## Answers change nothing of what is read -/

/-- The connections differ in what went out only. Once the socket is closed, nobody asks who wanted that. -/
structure Alike (c d : Connection) : Prop where
  connected : d.socket.connected = c.socket.connected
  openMessage : d.openMessage = c.openMessage
  lastFrame : d.lastFrame = c.lastFrame
  disconnecting : d.disconnecting = c.disconnecting
  tail : d.tail = c.tail
  closeRequested : c.socket.connected = true → d.closeRequested = c.closeRequested

namespace Alike

variable {p : Platform} {c d : Connection} {f : Frame}

theorem refl (c : Connection) : Alike c c := ⟨rfl, rfl, rfl, rfl, rfl, fun _ => rfl⟩

theorem setLastFrame (h : Alike c d) (l : Option Frame) : Alike { c with lastFrame := l } { d with lastFrame := l } :=
  ⟨h.connected, h.openMessage, rfl, h.disconnecting, h.tail, h.closeRequested⟩

theorem closeRequested_sendFrame (hf : f.opcode ≠ Opcode.closeFrame) (c : Connection) :
    (c.sendFrame p f).2.closeRequested = c.closeRequested := by
  have hcode : (f.opcode == Opcode.closeFrame) = false := beq_false_of_ne hf
  simp [Connection.sendFrame, hcode]

/-- A frame that one side sends. -/
theorem sendFrame_right (h : Alike c d) (hf : f.opcode ≠ Opcode.closeFrame) : Alike c (d.sendFrame p f).2 :=
  ⟨(d.connected_sendFrame f).trans h.connected, h.openMessage, h.lastFrame, h.disconnecting, h.tail,
    fun hc => (closeRequested_sendFrame hf d).trans (h.closeRequested hc)⟩

theorem sendFrame_left (h : Alike c d) (hf : f.opcode ≠ Opcode.closeFrame) : Alike (c.sendFrame p f).2 d :=
  ⟨h.connected.trans (c.connected_sendFrame f).symm, h.openMessage, h.lastFrame, h.disconnecting, h.tail,
    fun hc => (h.closeRequested ((c.connected_sendFrame f) ▸ hc)).trans (closeRequested_sendFrame hf c).symm⟩

/-- Answers that go out. -/
theorem sendTexts (h : Alike c d) (hf : d.Flows) (texts : List (List Char)) :
    ∃ d', FeedService.sendTexts p d texts = some d' ∧ Alike c d' ∧ d'.Flows := by
  induction texts generalizing d with
  | nil => exact ⟨d, rfl, h, hf⟩
  | cons text texts ih =>
    rw [FeedService.sendTexts, List.foldlM_cons]
    by_cases hconnected : d.socket.connected = true
    · have hsent := Connection.sent_of_flows (p := p) hf hconnected (Frame.create Opcode.textFrame (Mql.utf8 text))
      have hsend : d.sendFrames p (Message.setString text).frames =
          (true, (d.sendFrame p (Frame.create Opcode.textFrame (Mql.utf8 text))).2) := by
        simp only [Message.setString, Connection.sendFrames, if_pos hsent]
      rw [if_pos hconnected, hsend]
      exact ih (h.sendFrame_right (by decide : Opcode.textFrame ≠ Opcode.closeFrame))
        (Connection.flows_sendFrame hf _)
    · rw [if_neg hconnected]
      exact ih h hf

/-- Closing the socket. -/
theorem close (h : Alike c d) : d.close.2 = c.close.2 ∧ Alike c.close.1 d.close.1 := by
  unfold Connection.close
  rw [h.disconnecting]
  split
  · exact ⟨rfl, h⟩
  · exact ⟨rfl, rfl, h.openMessage, h.lastFrame, rfl, h.tail, by simp⟩

/-- A close frame. -/
theorem processClose (h : Alike c d) (hc : c.socket.connected = true) :
    (d.ackClose p).2 ++ (d.ackClose p).1.close.2 = (c.ackClose p).2 ++ (c.ackClose p).1.close.2 ∧
      Alike (c.ackClose p).1.close.1 (d.ackClose p).1.close.1 := by
  unfold Connection.ackClose
  rw [h.closeRequested hc, h.disconnecting, h.openMessage]
  split_ifs with hrequested hdisconnecting
  · exact ⟨congrArg _ h.close.1, h.close.2⟩
  · exact ⟨congrArg _ h.close.1, h.close.2⟩
  · -- whether the answer went out is all that the two may differ in, and then the socket is closed
    simp only [Connection.close, Connection.disconnecting_sendFrame, hdisconnecting]
    exact ⟨rfl, rfl, rfl, h.lastFrame, rfl, h.tail, by simp⟩

/-- **A frame** has the same effect on both. -/
theorem processFrame (h : Alike c d) (hc : c.socket.connected = true) (f : Frame) :
    (d.processFrame p f).2 = (c.processFrame p f).2 ∧ (d.processFrame p f).1.2 = (c.processFrame p f).1.2 ∧
      Alike (c.processFrame p f).1.1 (d.processFrame p f).1.1 := by
  unfold Connection.processFrame
  split
  · unfold Connection.processControlFrame
    split_ifs
    · obtain ⟨hcalls, halike⟩ := h.processClose (p := p) hc
      exact ⟨hcalls, rfl, halike⟩
    · have hpong :
        (Connection.pong p f).opcode ≠ Opcode.closeFrame := (by decide : Opcode.pongFrame ≠ Opcode.closeFrame)
      exact ⟨rfl, rfl, (h.sendFrame_right hpong).sendFrame_left hpong⟩
    · exact ⟨rfl, rfl, h⟩
  · simp only [Connection.processMessageFrame, h.openMessage]
    split_ifs
    · exact ⟨rfl, trivial, h.connected, rfl, h.lastFrame, h.disconnecting, h.tail, h.closeRequested⟩
    · exact ⟨rfl, trivial, h.connected, rfl, h.lastFrame, h.disconnecting, h.tail, h.closeRequested⟩

end Alike

/-! ## The Service hears what the connection says -/

namespace FeedService

variable {p : Platform} {t : ServiceTerminal} {session : List Char} {s s' : FeedService} {c c' : Connection}
  {pieces : List Data} {calls : List Call}

variable (t session) in
theorem hear_heard (h : Alike c s.connection) (hf : s.connection.Flows) (call : Call) :
    ∃ s', s.hear p t session call = some s' ∧ Alike c s'.connection ∧ s'.connection.Flows ∧
      s'.subscriptions = heard p t session s.subscriptions call := by
  cases call with
  | onDisconnect => exact ⟨_, rfl, h, hf, rfl⟩
  | onMessage m =>
    simp only [hear, heard]
    cases m.getString p with
    | none => exact ⟨s, rfl, h, hf, rfl⟩
    | some json =>
      obtain ⟨d, hsent, halike, hflows⟩ :=
        h.sendTexts (p := p) hf (t.nt5HandleWireMessage session s.subscriptions json).2
      simp only [hsent]
      exact ⟨_, rfl, halike, hflows, rfl⟩

variable (t session) in
theorem foldlM_hear (h : Alike c s.connection) (hf : s.connection.Flows) (calls : List Call) :
    ∃ s', calls.foldlM (hear p t session) s = some s' ∧ Alike c s'.connection ∧ s'.connection.Flows ∧
      s'.subscriptions = calls.foldl (heard p t session) s.subscriptions := by
  induction calls generalizing s with
  | nil => exact ⟨s, rfl, h, hf, rfl⟩
  | cons call calls ih =>
    obtain ⟨s₁, hcall, h₁, hf₁, hsubscriptions⟩ := hear_heard (p := p) t session h hf call
    obtain ⟨s', hcalls, h', hf', hall⟩ := ih h₁ hf₁
    refine ⟨s', ?_, h', hf', by rw [List.foldl_cons, hall, hsubscriptions]⟩
    rw [List.foldlM_cons, hcall]
    exact hcalls

/-- The loop that records the calls and the loop that makes them. -/
structure Follows (p : Platform) (t : ServiceTerminal) (session : List Char) (sv : ServiceSubscriptions)
    (r : Connection.ReadState) (q : (FeedService × Bool) × Data) : Prop where
  steady : ∃ closed, Connection.Steady (r.1.1, closed) ∧ (r.2.2 ≠ [] → closed = r.1.2)
  alike : Alike r.1.1 q.1.1.connection
  flows : q.1.1.connection.Flows
  closed : q.1.2 = r.1.2
  data : q.2 = r.2.2
  subscriptions : q.1.1.subscriptions = r.2.1.foldl (heard p t session) sv

/-- The two loops end with the same, up to what went out. -/
def Matched (p : Platform) (t : ServiceTerminal) (session : List Char) (sv : ServiceSubscriptions) :
    Option (Connection × List Call) → Option FeedService → Prop
  | some (c, calls), some s =>
    (∃ closed, Connection.Steady (c, closed)) ∧ Alike c s.connection ∧ s.connection.Flows ∧
      s.subscriptions = calls.foldl (heard p t session) sv
  | none, none => True
  | _, _ => False

variable {sv : ServiceSubscriptions} {r r' : Connection.ReadState} {q : (FeedService × Bool) × Data}

theorem Follows.done (h : Follows p t session sv r q) {result : Option (Connection × List Call)}
    (hround : Connection.readFrameStep p r = .done result) :
    ∃ result', serveStep p t session q = .done result' ∧ Matched p t session sv result result' := by
  obtain ⟨⟨c, closed⟩, calls, data⟩ := r
  obtain ⟨⟨s, closed'⟩, data'⟩ := q
  obtain ⟨⟨_, hsteady, -⟩, halike, hflows, rfl, rfl, hsubscriptions⟩ := h
  have hmatched : Matched p t session sv (some (c, calls)) (some s) := ⟨⟨_, hsteady⟩, halike, hflows, hsubscriptions⟩
  simp only [Connection.readFrameStep] at hround
  simp only [serveStep]
  split_ifs at hround ⊢ with hend
  · cases hround
    exact ⟨_, rfl, hmatched⟩
  · rw [halike.lastFrame]
    cases hdecode : Frame.decode data' c.lastFrame with
    | insufficient =>
      rw [hdecode] at hround
      cases hround
      exact ⟨_, rfl, hmatched⟩
    | outOfRange =>
      rw [hdecode] at hround
      cases hround
      exact ⟨none, rfl, trivial⟩
    | frame f rest =>
      rw [hdecode] at hround
      simp only at hround
      split_ifs at hround

theorem Follows.next (h : Follows p t session sv r q) (hround : Connection.readFrameStep p r = .next r') :
    ∃ q', serveStep p t session q = .next q' ∧ Follows p t session sv r' q' := by
  obtain ⟨⟨c, closed⟩, calls, data⟩ := r
  obtain ⟨⟨s, closed'⟩, data'⟩ := q
  obtain ⟨⟨_, hsteady, hflag⟩, halike, hflows, rfl, rfl, hsubscriptions⟩ := h
  simp only [Connection.readFrameStep] at hround
  simp only [serveStep]
  split_ifs at hround ⊢ with hend
  · rw [halike.lastFrame]
    obtain ⟨hdata, hclosed⟩ := not_or.mp hend
    obtain rfl : closed' = false := by simpa using hclosed
    obtain rfl := hflag hdata
    cases hdecode : Frame.decode data' c.lastFrame with
    | insufficient =>
      rw [hdecode] at hround
      cases hround
    | outOfRange =>
      rw [hdecode] at hround
      cases hround
    | frame f rest =>
      rw [hdecode] at hround
      simp only at hround ⊢
      split_ifs at hround ⊢ with hready
      · cases hround
        obtain ⟨hcalls, hlast, hframe⟩ := halike.processFrame (p := p) hsteady.connected f
        obtain ⟨s', hheard, halike', hflows', hsub⟩ := foldlM_hear (p := p) t session
          (s := { s with connection := (s.connection.processFrame p f).1.1 }) hframe
          (Connection.flows_processFrame hflows f) (c.processFrame p f).2
        have hsteady' := Connection.steady_processFrame (p := p) (f := f) hsteady
        rw [hcalls, hlast, hheard]
        refine ⟨_, rfl, ⟨_, ⟨hsteady'.tail, hsteady'.connected, hsteady'.disconnecting⟩, fun _ => rfl⟩,
          halike'.setLastFrame none, hflows', rfl, rfl, ?_⟩
        rw [List.foldl_append, ← hsubscriptions]
        exact hsub
      · cases hround
        exact ⟨_, rfl, ⟨_, ⟨hsteady.tail, hsteady.connected, hsteady.disconnecting⟩, fun _ => rfl⟩,
          halike.setLastFrame _, hflows, rfl, rfl, hsubscriptions⟩

/-- A socket that is closed has nothing more to read. -/
theorem readPacketFromNet_steady {closed : Bool} (hs : Connection.Steady (c, closed)) (packet : Data) :
    c.readPacketFromNet packet true = ((c, []), if closed then [] else packet) := by
  obtain ⟨-, hconnected, hdisconnecting⟩ := hs
  simp only at hconnected hdisconnecting
  cases closed <;> simp [Connection.readPacketFromNet, Connection.close, hconnected, hdisconnecting]

variable (t session) in
/-- One call of `checkMessages`. -/
theorem checkMessages_of_readFrame {closed : Bool} {packet : Data} (hs : Connection.Steady (c, closed))
    (h : Alike c s.connection) (hf : s.connection.Flows) (hread : c.ReadFrame p packet true (some (c', calls))) :
    ∃ s', s.CheckMessages p t session packet (some s') ∧ (∃ closed', Connection.Steady (c', closed')) ∧
      Alike c' s'.connection ∧ s'.connection.Flows ∧
        s'.subscriptions = calls.foldl (heard p t session) s.subscriptions := by
  have hs' : Connection.Steady (s.connection, closed) :=
    ⟨h.tail.trans hs.tail, h.connected.trans hs.connected, h.disconnecting.trans hs.disconnecting⟩
  have htail : c.tail = [] := hs.tail
  have htail' : s.connection.tail = [] := hs'.tail
  unfold Connection.ReadFrame at hread
  unfold CheckMessages
  simp only [htail, if_true, readPacketFromNet_steady hs] at hread
  simp only [htail', if_true, readPacketFromNet_steady hs', List.foldlM_nil, pure]
  have hstart : Follows p t session s.subscriptions ((c, false), [], if closed then [] else packet)
      ((s, false), if closed then [] else packet) :=
    ⟨⟨closed, hs, by cases closed <;> simp⟩, h, hf, rfl, rfl, rfl⟩
  obtain ⟨result, hreturns, hmatched⟩ := Loop.Returns.simulates (R := Follows p t session s.subscriptions)
    (S := Matched p t session s.subscriptions) (fun _ _ _ hr hround => hr.done hround)
    (fun _ _ _ hr hround => hr.next hround) hstart hread
  cases result with
  | none => cases hmatched
  | some s' => exact ⟨s', hreturns, hmatched⟩

variable (t session) in
theorem serves_of_reads {closed : Bool} (hs : Connection.Steady (c, closed)) (h : Alike c s.connection)
    (hf : s.connection.Flows) (hreads : Connection.Reads p pieces c c' calls) :
    ∃ s', Serves p t session pieces s s' ∧ Alike c' s'.connection ∧
      s'.subscriptions = calls.foldl (heard p t session) s.subscriptions := by
  induction pieces generalizing c s calls closed with
  | nil =>
    obtain ⟨rfl, rfl⟩ := hreads
    exact ⟨s, rfl, h, rfl⟩
  | cons piece pieces ih =>
    obtain ⟨c₁, o₁, o₂, hread, hrest, rfl⟩ := hreads
    obtain ⟨s₁, hcheck, ⟨_, hs₁⟩, h₁, hf₁, hsub₁⟩ := checkMessages_of_readFrame t session hs h hf hread
    obtain ⟨s', hserves, h', hsub'⟩ := ih hs₁ h₁ hf₁ hrest
    exact ⟨s', ⟨s₁, hcheck, hserves⟩, h', by rw [hsub', hsub₁, List.foldl_append]⟩

theorem CheckMessages.unique {packet : Data} {r r' : Option FeedService} (h : s.CheckMessages p t session packet r)
    (h' : s.CheckMessages p t session packet r') : r' = r := by
  simp only [CheckMessages] at h h'
  split at h
  · rename_i hnone
    rw [hnone] at h'
    exact h'.trans h.symm
  · rename_i s₀ hsome
    rw [hsome] at h'
    change Loop.Returns _ _ r' at h'
    exact Loop.Returns.unique h' h

theorem Serves.unique {s₁ s₂ : FeedService} (h₁ : Serves p t session pieces s s₁)
    (h₂ : Serves p t session pieces s s₂) : s₂ = s₁ := by
  induction pieces generalizing s with
  | nil => exact h₂.trans h₁.symm
  | cons piece pieces ih =>
    obtain ⟨_, hcheck, hrest⟩ := h₁
    obtain ⟨_, hcheck', hrest'⟩ := h₂
    cases CheckMessages.unique hcheck hcheck'
    exact ih hrest hrest'

/-! ## Commands -/

/-- A text of the gateway. -/
inductive GatewayText
  | command (c : Command)
  | ping
  deriving DecidableEq

namespace GatewayText

def encode : GatewayText → List Char
  | .command c => c.encode
  | .ping => buildPingCommand

def Arrives (t : ServiceTerminal) : GatewayText → Prop
  | .command c => c.Arrives t
  | .ping => True

/-- What the text is for. -/
def handle (sv : ServiceSubscriptions) : GatewayText → ServiceSubscriptions
  | .command c => (sv.nt5HandleWireMessage c).1
  | .ping => sv

end GatewayText

variable {text : GatewayText} {texts : List GatewayText}

theorem printable_op (c : Command) : ∀ d ∈ c.op.toList, Py.Printable d := by
  have hall : ∀ op ∈ ["subscribe", "unsubscribe", "subscribe_bars", "unsubscribe_bars"],
      (op.toList.all fun d => Py.Printable d) = true := by decide
  exact Py.forall_mem_of_all (hall c.op (by cases c <;> simp [Command.op]))

theorem printable_symbolsText (symbols : List String) : ∀ d ∈ symbolsText symbols, Py.Printable d := by
  intro d hd
  rcases mem_symbolsText hd with rfl | rfl | ⟨s, -, hd⟩
  · decide
  · decide
  · obtain ⟨ch, -, hd⟩ := List.mem_flatMap.mp hd
    exact Py.printable_escapeAscii ch d hd

theorem printable_encode (c : Command) : ∀ d ∈ c.encode, Py.Printable d := by
  have hkey : ∀ d ∈ "op".toList, Py.Printable d := Py.forall_mem_of_all (by decide)
  have hsymbols : ∀ d ∈ "symbols".toList, Py.Printable d := Py.forall_mem_of_all (by decide)
  have hquote : Py.Printable '"' := by decide
  have hcolon : Py.Printable ':' := by decide
  rw [encode_eq]
  simp only [List.forall_mem_cons, List.forall_mem_append]
  exact ⟨by decide, hquote, hkey, hquote, hcolon, hquote, printable_op c, hquote, by decide, hquote, hsymbols, hquote,
    hcolon, by decide, printable_symbolsText _, by decide, printable_restText _⟩

theorem printable_gatewayText (text : GatewayText) : ∀ d ∈ text.encode, Py.Printable d := by
  cases text with
  | command c => exact printable_encode c
  | ping => exact Py.forall_mem_of_all (by decide)

theorem nt5HandleWireMessage_ping (sv : ServiceSubscriptions) :
    t.nt5HandleWireMessage session sv buildPingCommand = (sv, [nt5BuildPongJson]) := by
  have hop : nt5ParseWireOp buildPingCommand = some "ping".toList := by decide
  have h₁ : "ping".toList ≠ "subscribe".toList := by decide
  have h₂ : "ping".toList ≠ "unsubscribe".toList := by decide
  have h₃ : "ping".toList ≠ "subscribe_bars".toList := by decide
  have h₄ : "ping".toList ≠ "unsubscribe_bars".toList := by decide
  rw [ServiceTerminal.nt5HandleWireMessage, hop]
  exact (if_neg h₁).trans ((if_neg h₂).trans ((if_neg h₃).trans ((if_neg h₄).trans (if_pos rfl))))

theorem handle_text (ht : t.KeepsTokens) (h : text.Arrives t) (sv : ServiceSubscriptions) :
    (t.nt5HandleWireMessage session sv text.encode).1 = text.handle sv := by
  cases text with
  | command c => exact congrArg Prod.fst (ServiceTerminal.handleWireMessage_encode ht h)
  | ping => exact congrArg Prod.fst (nt5HandleWireMessage_ping sv)

theorem nul_not_mem_encode (text : GatewayText) : Char.ofNat 0 ∉ text.encode := fun h =>
  absurd (printable_gatewayText text _ h) (by decide)

/-- The calls for the texts do what the texts are for. -/
theorem foldl_heard (ht : t.KeepsTokens) (harrives : ∀ text ∈ texts, text.Arrives t) {ms : List Message}
    (hstrings : ms.map (·.getString p) = texts.map fun text => some text.encode) (sv : ServiceSubscriptions) :
    (ms.map Call.onMessage).foldl (heard p t session) sv = texts.foldl GatewayText.handle sv := by
  induction texts generalizing ms sv with
  | nil =>
    obtain rfl : ms = [] := by simpa using hstrings
    rfl
  | cons text texts ih =>
    obtain ⟨htext, harrives⟩ := List.forall_mem_cons.mp harrives
    obtain ⟨m, ms, rfl, hm, hms⟩ := List.map_eq_cons_iff.mp hstrings
    have hheard : heard p t session sv (.onMessage m) = text.handle sv := by
      rw [heard, hm, ← handle_text ht htext sv]
      rfl
    rw [List.map_cons, List.foldl_cons, List.foldl_cons, hheard]
    exact ih harrives hms _

variable (t session) in
/-- What the connection reads, the Service hears. -/
theorem exists_serves (hs : Connection.Idle s.connection) (hf : s.connection.Flows)
    (ws : List WireFrame) {last : Connection × Bool}
    (hprocess : Connection.processFrames p (s.connection, false) (ws.map (·.frame)) = (last, calls))
    (hflat : pieces.flatten = ws.flatMap (·.bytes))
    (hcuts : ∀ read, read <+: pieces → ¬ Connection.InHeader ws read.flatten.length) :
    ∃ s', (∀ s'', Serves p t session pieces s s'' ↔ s'' = s') ∧ Alike last.1 s'.connection ∧
      s'.subscriptions = calls.foldl (heard p t session) s.subscriptions := by
  have hreads : Connection.Reads p pieces s.connection last.1 calls := by
    rw [Connection.reads_iff ws hflat hcuts hs.steady hs.lastFrame, hprocess]
    exact ⟨rfl, rfl⟩
  obtain ⟨s', hserves, halike, hsubscriptions⟩ := serves_of_reads t session hs.steady (.refl _) hf hreads
  exact ⟨s', fun s'' => ⟨fun h => hserves.unique h, fun h => h ▸ hserves⟩, halike, hsubscriptions⟩

/-- **Commands arrive**: the bytes that carry texts of the gateway, in whatever frames and pieces, do to the
subscriptions what the texts are for; what the Service answers meanwhile changes nothing of it, as long as no send
fails. -/
theorem commands_served (ht : t.KeepsTokens) (hs : Connection.Idle s.connection) (hf : s.connection.Flows)
    (harrives : ∀ text ∈ texts, text.Arrives t) (ws : List WireFrame) (hclose : ∀ w ∈ ws, w.opcode ≠ Opcode.closeFrame)
    (hplain : ∀ w ∈ ws, w.rsv1 = false)
    (hcarried : messages none (ws.map (·.frame)) = texts.map fun text => Mql.utf8 text.encode)
    (hflat : pieces.flatten = ws.flatMap (·.bytes))
    (hcuts : ∀ read, read <+: pieces → ¬ Connection.InHeader ws read.flatten.length) :
    ∃ s', (∀ s'', Serves p t session pieces s s'' ↔ s'' = s') ∧
      s'.subscriptions = texts.foldl GatewayText.handle s.subscriptions := by
  have hnul : ∀ text ∈ texts.map GatewayText.encode, Char.ofNat 0 ∉ text :=
    List.forall_mem_map.mpr fun text _ => nul_not_mem_encode text
  obtain ⟨c', ms, hstrings, hprocess⟩ := Connection.processFrames_texts (p := p) hs hclose hplain hnul
    (hcarried.trans List.map_map.symm)
  obtain ⟨s', hserves, -, hsubscriptions⟩ := exists_serves t session hs hf ws hprocess hflat hcuts
  refine ⟨s', hserves, ?_⟩
  rw [List.map_map] at hstrings
  rw [hsubscriptions, foldl_heard ht harrives hstrings]

/-- A terminal that knows every symbol. -/
def sampleServiceTerminal : ServiceTerminal := ⟨[], 0, fun _ => true, id, some⟩

/-- The quotes of one symbol, and a ping. -/
def sampleTexts : List GatewayText := [.command (.subscribe ["EU"]), .ping]

/-- The frame of a short text. -/
def sampleWire (text : GatewayText) (h : (Mql.utf8 text.encode).length < 126) : WireFrame :=
  ⟨true, false, false, false, Opcode.textFrame, none, .short, Mql.utf8 text.encode, by decide, by decide, h⟩

theorem arrives_sampleTexts : ∀ text ∈ sampleTexts, text.Arrives sampleServiceTerminal := by
  have hall : ("EU".toList.all fun ch => decide (WireSafe ch)) = true := by decide
  have hsafe : ∀ ch ∈ "EU".toList, WireSafe ch := fun ch hch => of_decide_eq_true (List.all_eq_true.mp hall ch hch)
  have hcommand : (Command.subscribe ["EU"]).Arrives sampleServiceTerminal :=
    ⟨⟨List.forall_mem_singleton.mpr hsafe, fun h => absurd rfl h⟩, by decide, fun _ _ => rfl⟩
  simp [sampleTexts, GatewayText.Arrives, hcommand]

/-- A connection whose first answers go out in parts. -/
def sampleConnection : Connection := { socket := { sends := [some 20, some 7, some 2] } }

theorem flows_sampleConnection : sampleConnection.Flows := by
  show none ∉ [some 20, some 7, some 2]
  decide

/-- The first frame comes in two pieces. -/
theorem commands_served_sample :
    ∃ s', (∀ s'', Serves ⟨fun _ => [], fun _ => none, fun _ => 0⟩ sampleServiceTerminal []
        [(sampleWire (.command (.subscribe ["EU"])) (by decide)).bytes.take 9,
          (sampleWire (.command (.subscribe ["EU"])) (by decide)).bytes.drop 9 ++ (sampleWire .ping (by decide)).bytes]
        ⟨sampleConnection, {}⟩ s'' ↔ s'' = s') ∧
      s'.subscriptions = sampleTexts.foldl GatewayText.handle {} :=
  commands_served (s := ⟨sampleConnection, {}⟩) (fun _ => ⟨rfl, rfl⟩) ⟨⟨rfl, rfl, rfl⟩, rfl, rfl⟩
    flows_sampleConnection arrives_sampleTexts
    [sampleWire (.command (.subscribe ["EU"])) (by decide), sampleWire .ping (by decide)] (by decide) (by decide)
    (by decide) (by decide) (Connection.cuts_of_inits (by decide))

/-- What a frame cuts off has no text. -/
theorem foldl_heard_none {ms : List Message} (h : ∀ text ∈ ms.map (·.getString p), text = none)
    (sv : ServiceSubscriptions) :
    (ms.map Call.onMessage).foldl (heard p t session) sv = sv := by
  induction ms with
  | nil => rfl
  | cons m ms ih =>
    obtain ⟨hm, hms⟩ := List.forall_mem_cons.mp h
    have hsame : heard p t session sv (.onMessage m) = sv := congrArg (Option.elim · sv _) hm
    rw [List.map_cons, List.foldl_cons, hsame]
    exact ih hms

/-- **Up to a close frame**: what was whole before it is served, then the bars are cleared and the socket is closed;
what is half sent and what comes behind does nothing. -/
theorem close_served (ht : t.KeepsTokens) (hs : Connection.Idle s.connection) (hf : s.connection.Flows)
    (harrives : ∀ text ∈ texts, text.Arrives t) (ws : List WireFrame) (hclose : ∀ w ∈ ws, w.opcode ≠ Opcode.closeFrame)
    (hplain : ∀ w ∈ ws, w.rsv1 = false)
    (hcarried : messages none (ws.map (·.frame)) = texts.map fun text => Mql.utf8 text.encode)
    (w : WireFrame) (hw : w.opcode = Opcode.closeFrame) (after : List WireFrame)
    (hflat : pieces.flatten = (ws ++ w :: after).flatMap (·.bytes))
    (hcuts : ∀ read, read <+: pieces → ¬ Connection.InHeader (ws ++ w :: after) read.flatten.length) :
    ∃ s', (∀ s'', Serves p t session pieces s s'' ↔ s'' = s') ∧ s'.connection.socket.connected = false ∧
      s'.subscriptions = (texts.foldl GatewayText.handle s.subscriptions).nt5ClearActiveBarSubscriptions := by
  have hnul : ∀ text ∈ texts.map GatewayText.encode, Char.ofNat 0 ∉ text :=
    List.forall_mem_map.mpr fun text _ => nul_not_mem_encode text
  obtain ⟨c', ms, cut, hprocess, hstrings, hcut⟩ :=
    Connection.processFrames_until_close (p := p) hs hclose hplain hw after
  obtain ⟨s', hserves, halike, hsubscriptions⟩ := exists_serves t session hs hf _ hprocess hflat hcuts
  have hsteady : Connection.Steady (c', true) := by
    simpa only [hprocess] using Connection.steady_processFrames (p := p) hs.steady ((ws ++ w :: after).map (·.frame))
  refine ⟨s', hserves, halike.connected.trans hsteady.connected, ?_⟩
  have hnone : ∀ text ∈ cut.map (·.getString p), text = none := by
    rw [hcut]
    split <;> simp
  have htexts : ms.map (·.getString p) = texts.map fun text => some text.encode := by
    rw [hstrings, hcarried, List.map_map]
    exact List.map_congr_left fun text htext =>
      congrArg some (Mql.charArrayToString_utf8 p.garbled (nul_not_mem_encode text))
  rw [hsubscriptions, List.foldl_append, List.map_append, List.foldl_append, foldl_heard ht harrives htexts,
    foldl_heard_none hnone]
  rfl

/-- A subscription, the close frame and a ping behind it, in one piece. -/
theorem close_served_sample :
    ∃ s', (∀ s'', Serves ⟨fun _ => [], fun _ => none, fun _ => 0⟩ sampleServiceTerminal []
        [(sampleWire (.command (.subscribe ["EU"])) (by decide)).bytes ++ ([0x88, 0] ++
          (sampleWire .ping (by decide)).bytes)] ⟨sampleConnection, {}⟩ s'' ↔ s'' = s') ∧
      s'.connection.socket.connected = false ∧
      s'.subscriptions = (([.command (.subscribe ["EU"])] : List GatewayText).foldl GatewayText.handle
        {}).nt5ClearActiveBarSubscriptions :=
  close_served (s := ⟨sampleConnection, {}⟩) (fun _ => ⟨rfl, rfl⟩) ⟨⟨rfl, rfl, rfl⟩, rfl, rfl⟩
    flows_sampleConnection
    (List.forall_mem_singleton.mpr (List.forall_mem_cons.mp arrives_sampleTexts).1)
    [sampleWire (.command (.subscribe ["EU"])) (by decide)] (by decide) (by decide) (by decide)
    ⟨true, false, false, false, Opcode.closeFrame, none, .short, [], by decide, by decide, by decide⟩ rfl
    [sampleWire .ping (by decide)] (by decide) (Connection.cuts_of_inits (by decide))

end FeedService

end NautilusMt5
