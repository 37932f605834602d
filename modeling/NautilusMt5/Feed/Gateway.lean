import NautilusMt5.Feed.Handler
import NautilusMt5.Feed.Readings

/-!
# Frames at the gateway (`feed/gateway.py`)

`_handle_raw` parses a frame, gives the message to the handler and what comes out to the callback; a frame that is
rejected with a `ValueError` is logged. `_connection_handler` does so with one frame after the other, until the peer
closes the connection or `_handle_raw` raises.

`frame_contained_iff`: a frame is contained just when it is `Containable`. `connection_handled`: the first that is not
ends the connection.
-/

namespace NautilusMt5

open Py

/-- `InboundFeedGateway`; `serviceWs` is the number of the connection. -/
structure InboundFeedGateway where
  handler : InboundFeedHandler := {}
  helloEvent : Bool := false
  lastHello : Option Wire.HelloMessage := none
  serviceWs : Option ℕ := none

/-- `_on_event`: what it makes of the gateway, and whether it raises. -/
abbrev EventCallback := InboundFeedGateway → WireInboundMessage → InboundFeedGateway × Except Error Unit

namespace InboundFeedGateway

section Frames

variable (py : Interpreter) (onEvent : Option EventCallback)

/-- A hello is kept, and those who wait for one go on. -/
def noteHello (g : InboundFeedGateway) : WireInboundMessage → InboundFeedGateway
  | .hello m => { g with lastHello := some m, helloEvent := true }
  | _ => g

/-- The end of `_handle_raw`, with what the handler returned. -/
def deliver (g : InboundFeedGateway) : Option WireInboundMessage → InboundFeedGateway × Except Error Unit
  | none => (g, .ok ())
  | some event =>
    match onEvent with
    | none => (g.noteHello event, .ok ())
    | some call => call (g.noteHello event) event

/-- `_handle_raw`. -/
def handleRaw (g : InboundFeedGateway) (raw : RawFrame) : InboundFeedGateway × Except Error Unit :=
  match parseWireMessage py raw with
  -- `except (ValueError, UnicodeDecodeError)`
  | .error e => (g, if e.IsValueError then .ok () else .error e)
  | .ok parsed =>
    let handled := g.handler.handleMessage py.upper parsed
    deliver onEvent { g with handler := handled.1 } handled.2

/-- `async for raw in websocket`, up to the end of the connection. -/
def readFrames (g : InboundFeedGateway) : List RawFrame → InboundFeedGateway × Except Error Unit
  | [] => (g, .ok ())
  | raw :: raws =>
    match g.handleRaw py onEvent raw with
    | (g, .ok ()) => readFrames g raws
    | (g, .error e) => (g, .error e)

/-- `_connection_handler` of an accepted connection. -/
def connectionHandler (g : InboundFeedGateway) (websocket : ℕ) (raws : List RawFrame) :
    InboundFeedGateway × Except Error Unit :=
  let read := { g with serviceWs := some websocket }.readFrames py onEvent raws
  (if read.1.serviceWs = some websocket then { read.1 with serviceWs := none } else read.1, read.2)

end Frames

/-- The callback does not raise. -/
def Quiet (onEvent : Option EventCallback) : Prop := ∀ call, onEvent = some call → ∀ g m, (call g m).2 = .ok ()

variable {py : Interpreter} {onEvent : Option EventCallback} {g : InboundFeedGateway} {raw : RawFrame}
  {raws : List RawFrame} {e : Error}

/-! ## One frame -/

/-- What `_handle_raw` raises behind the parser comes from the callback. -/
theorem deliver_error {event : Option WireInboundMessage} (h : (g.deliver onEvent event).2 = .error e) :
    ∃ call g' m, onEvent = some call ∧ (call g' m).2 = .error e := by
  cases event with
  | none => cases h
  | some m =>
    cases onEvent with
    | none => cases h
    | some call => exact ⟨call, _, m, rfl, h⟩

theorem handleRaw_of_ok {m : WireInboundMessage} (h : parseWireMessage py raw = .ok m) :
    g.handleRaw py onEvent raw =
      deliver onEvent { g with handler := (g.handler.handleMessage py.upper m).1 }
        (g.handler.handleMessage py.upper m).2 := by
  rw [handleRaw, h]

theorem handleRaw_of_error (h : parseWireMessage py raw = .error e) :
    g.handleRaw py onEvent raw = (g, if e.IsValueError then .ok () else .error e) := by
  rw [handleRaw, h]

/-- What leaves `_handle_raw` is no `ValueError` of the parser. -/
theorem handleRaw_error (h : (g.handleRaw py onEvent raw).2 = .error e) :
    (parseWireMessage py raw = .error e ∧ ¬ e.IsValueError) ∨
      ∃ call g' m, onEvent = some call ∧ (call g' m).2 = .error e := by
  cases hp : parseWireMessage py raw with
  | ok m =>
    rw [handleRaw_of_ok hp] at h
    exact .inr (deliver_error h)
  | error e' =>
    rw [handleRaw_of_error hp] at h
    simp only at h
    split_ifs at h with hv
    cases h
    exact .inl ⟨rfl, hv⟩

/-! ## The frames of a connection -/

theorem readFrames_of_ok (h : (g.handleRaw py onEvent raw).2 = .ok ()) :
    g.readFrames py onEvent (raw :: raws) = (g.handleRaw py onEvent raw).1.readFrames py onEvent raws := by
  rw [readFrames]
  split <;> simp_all

theorem readFrames_of_error (h : (g.handleRaw py onEvent raw).2 = .error e) :
    g.readFrames py onEvent (raw :: raws) = ((g.handleRaw py onEvent raw).1, .error e) := by
  rw [readFrames]
  split <;> simp_all

theorem handleRaw_of_containable (hq : Quiet onEvent) (h : Containable py raw) :
    (g.handleRaw py onEvent raw).2 = .ok () := by
  cases hr : (g.handleRaw py onEvent raw).2 with
  | ok => rfl
  | error e =>
    rcases handleRaw_error hr with ⟨hp, hv⟩ | ⟨call, g', m, hcall, he⟩
    · exact absurd (raisesOnly_parseWireMessage.mpr h e hp) hv
    · rw [hq call hcall] at he
      cases he

/-- A frame that is not containable ends the connection: what comes behind it is not read. -/
theorem readFrames_of_not_containable (h : ¬ Containable py raw) :
    ∃ e, parseWireMessage py raw = .error e ∧ ¬ e.IsValueError ∧
      ∀ g onEvent raws, readFrames py onEvent g (raw :: raws) = (g, .error e) := by
  rw [← raisesOnly_parseWireMessage] at h
  simp only [RaisesOnly, not_forall] at h
  obtain ⟨e, he, hv⟩ := h
  refine ⟨e, he, hv, fun g onEvent raws => ?_⟩
  have hraw : g.handleRaw py onEvent raw = (g, .error e) := by rw [handleRaw_of_error he, if_neg hv]
  have herr : (g.handleRaw py onEvent raw).2 = .error e := by rw [hraw]
  rw [readFrames_of_error herr, hraw]

/-- Frames that are containable are read to the end, and what is behind them after it. -/
theorem readFrames_append (hq : Quiet onEvent) {before : List RawFrame} (hb : ∀ raw ∈ before, Containable py raw) :
    (g.readFrames py onEvent before).2 = .ok () ∧
      g.readFrames py onEvent (before ++ raws) = (g.readFrames py onEvent before).1.readFrames py onEvent raws := by
  induction before generalizing g with
  | nil => exact ⟨rfl, rfl⟩
  | cons raw before ih =>
    obtain ⟨hraw, hb⟩ := List.forall_mem_cons.mp hb
    have hok := handleRaw_of_containable (g := g) hq hraw
    rw [List.cons_append, readFrames_of_ok hok, readFrames_of_ok hok]
    exact ih hb

/-- A connection is read to its end just when all of its frames are containable. -/
theorem readFrames_returns_iff (hq : Quiet onEvent) :
    (g.readFrames py onEvent raws).2 = .ok () ↔ ∀ raw ∈ raws, Containable py raw := by
  induction raws generalizing g with
  | nil => simp [readFrames]
  | cons raw raws ih =>
    rw [List.forall_mem_cons]
    by_cases h : Containable py raw
    · rw [readFrames_of_ok (handleRaw_of_containable hq h), ih]
      simp [h]
    · obtain ⟨e, -, -, hread⟩ := readFrames_of_not_containable h
      simp [hread, h]

/-- What the handler of a connection raises or returns is what reading its frames does. -/
theorem connectionHandler_snd (websocket : ℕ) :
    (g.connectionHandler py onEvent websocket raws).2 =
      ({ g with serviceWs := some websocket }.readFrames py onEvent raws).2 := rfl

/-- However the connection ends, the gateway does not keep it. -/
theorem serviceWs_connectionHandler (g : InboundFeedGateway) (websocket : ℕ) (raws : List RawFrame) :
    (g.connectionHandler py onEvent websocket raws).1.serviceWs ≠ some websocket := by
  unfold connectionHandler
  simp only
  split_ifs with h
  · simp
  · exact h

/-- Frames that make the same of the gateway while they are read leave the same of it when the connection ends. -/
theorem connectionHandler_fst {raws' : List RawFrame} {websocket : ℕ}
    (h : ({ g with serviceWs := some websocket }.readFrames py onEvent raws).1 =
      ({ g with serviceWs := some websocket }.readFrames py onEvent raws').1) :
    (g.connectionHandler py onEvent websocket raws).1 = (g.connectionHandler py onEvent websocket raws').1 := by
  simp only [connectionHandler, h]

end InboundFeedGateway

/-! ## Contained frames -/

open InboundFeedGateway

/-- The frame does no harm to the connection. -/
structure FrameContained (py : Interpreter) (raw : RawFrame) : Prop where
  /-- It is a message or rejected with a `ValueError`. -/
  parsed : (∃ m, parseWireMessage py raw = .ok m) ∨ ∃ e, parseWireMessage py raw = .error e ∧ e.IsValueError
  /-- What `_handle_raw` raises, the callback raised. -/
  handled : ∀ onEvent g e, (handleRaw py onEvent g raw).2 = .error e →
    ∃ call g' m, onEvent = some call ∧ (call g' m).2 = .error e
  /-- When it is rejected the handler stays as it is. -/
  rejected : ∀ onEvent g e, parseWireMessage py raw = .error e → (handleRaw py onEvent g raw).1.handler = g.handler
  /-- The next frame is read. -/
  goesOn : ∀ onEvent g raws, Quiet onEvent →
    readFrames py onEvent g (raw :: raws) = (handleRaw py onEvent g raw).1.readFrames py onEvent raws

/-- A parser that raises nothing but `ValueError`s is what the frame has to leave. -/
theorem FrameContained.containable {py : Interpreter} {raw : RawFrame} (h : FrameContained py raw) :
    Containable py raw := by
  rw [← raisesOnly_parseWireMessage]
  intro e he
  rcases h.parsed with ⟨m, hm⟩ | ⟨e', he', hv⟩
  · rw [hm] at he
    cases he
  · rw [he'] at he
    cases he
    exact hv

/-- **A frame is contained just when nothing escapes in it**: its text is not nested too deep, its value is a dict, and
no field fails with something else than a `ValueError` before another is rejected. -/
theorem frame_contained_iff (py : Interpreter) (raw : RawFrame) : FrameContained py raw ↔ Containable py raw := by
  constructor
  · intro h
    exact h.containable
  · intro h
    have hraises := raisesOnly_parseWireMessage.mpr h
    refine ⟨?_, ?_, ?_, ?_⟩
    · cases hp : parseWireMessage py raw with
      | ok m => exact .inl ⟨m, rfl⟩
      | error e => exact .inr ⟨e, rfl, hraises e hp⟩
    · intro onEvent g e he
      rcases handleRaw_error he with ⟨hp, hv⟩ | hcall
      · exact absurd (hraises e hp) hv
      · exact hcall
    · intro onEvent g e he
      rw [handleRaw_of_error he]
    · intro onEvent g raws hq
      exact readFrames_of_ok (handleRaw_of_containable hq h)

/-- A value that is not containable is not contained. -/
theorem not_frameContained_text {py : Interpreter} {text : List Char} {v : Json}
    (hv : Json.loads py.nesting text = .ok v) (hc : ¬ ContainableValue py v) : ¬ FrameContained py (.text text) :=
  fun h => hc ((h.containable text rfl).2 v hv)

/-- A list, a heartbeat at infinity and a tick without its time. -/
theorem escaping_frames :
    ¬ FrameContained .plain (.text "[]".toList) ∧
      ¬ FrameContained .plain (.text "\x7b\"op\":\"heartbeat\",\"ts_msc\":Infinity\x7d".toList) ∧
        ¬ FrameContained .plain (.text
          "\x7b\"op\":\"ticks\",\"symbol\":\"S\",\"cursor\":1,\"data\":[\x7b\"bid\":1\x7d]\x7d".toList) := by
  have hlist : ¬ ContainableValue .plain (.list []) := id
  have hinf : ¬ ContainableValue .plain (.dict [("op", .str "heartbeat"), ("ts_msc", .float .inf)]) := by decide +kernel
  have htick : ¬ ContainableValue .plain (.dict [("op", .str "ticks"), ("symbol", .str "S"), ("cursor", .int 1),
      ("data", .list [.dict [("bid", .int 1)]])]) := by decide +kernel
  exact ⟨not_frameContained_text rfl hlist, not_frameContained_text rfl hinf, not_frameContained_text rfl htick⟩

/-! ## Whole connections -/

/-- **What a connection does.** Its handler returns just when all of its frames are containable. The first one that is
not ends it: the handler raises what the parser raised there, and leaves the gateway as the frames before it did. The
gateway keeps no connection that has ended. -/
theorem connection_handled (py : Interpreter) (onEvent : Option EventCallback) (hq : Quiet onEvent)
    (g : InboundFeedGateway) (websocket : ℕ) (raws : List RawFrame) :
    ((connectionHandler py onEvent g websocket raws).2 = .ok () ↔ ∀ raw ∈ raws, Containable py raw) ∧
      (∀ before raw after, raws = before ++ raw :: after → (∀ r ∈ before, Containable py r) → ¬ Containable py raw →
        ∃ e, parseWireMessage py raw = .error e ∧ ¬ e.IsValueError ∧
          connectionHandler py onEvent g websocket raws =
            ((connectionHandler py onEvent g websocket before).1, .error e)) ∧
      (connectionHandler py onEvent g websocket raws).1.serviceWs ≠ some websocket := by
  refine ⟨readFrames_returns_iff hq, ?_, serviceWs_connectionHandler g websocket raws⟩
  rintro before raw after rfl hbefore hraw
  obtain ⟨e, he, hv, hraises⟩ := readFrames_of_not_containable hraw
  have hread : { g with serviceWs := some websocket }.readFrames py onEvent (before ++ raw :: after) =
      ({ g with serviceWs := some websocket }.readFrames py onEvent before).1.readFrames py onEvent (raw :: after) :=
    (readFrames_append hq hbefore).2
  rw [hraises] at hread
  refine ⟨e, he, hv, Prod.ext (connectionHandler_fst ?_) ?_⟩
  · rw [hread]
  · rw [connectionHandler_snd, hread]

/-- A heartbeat. -/
def heartbeatFrame : RawFrame := .text "\x7b\"op\":\"heartbeat\",\"ts_msc\":1\x7d".toList

theorem containable_heartbeatFrame : Containable .plain heartbeatFrame := by
  refine (containable_text_iff (by decide)).mpr fun v hv => ?_
  have hloads : Json.loads Interpreter.plain.nesting "\x7b\"op\":\"heartbeat\",\"ts_msc\":1\x7d".toList =
      .ok (.dict [("op", .str "heartbeat"), ("ts_msc", .int 1)]) := rfl
  rw [hloads] at hv
  cases hv
  decide +kernel

theorem not_containable_list : ¬ Containable .plain (.text "[]".toList) := fun h => (h _ rfl).2 (.list []) rfl

/-- Of three frames the list in the middle ends the connection. -/
theorem list_ends_connection :
    ∃ e, parseWireMessage .plain (.text "[]".toList) = .error e ∧ ¬ e.IsValueError ∧
      connectionHandler .plain none {} 1 [heartbeatFrame, .text "[]".toList, heartbeatFrame] =
        ((connectionHandler .plain none {} 1 [heartbeatFrame]).1, .error e) :=
  (connection_handled .plain none (fun _ h => nomatch h) {} 1 _).2.1 [heartbeatFrame] _ [heartbeatFrame] rfl
    (List.forall_mem_singleton.mpr containable_heartbeatFrame) not_containable_list

end NautilusMt5
