import NautilusMt5.WebSocket.Reading

/-!
# What the observer hears

`messages` says what frames carry: the payloads up to each final frame, joined; control frames may stand between them.
The connection collects just that (`processFrames_messages`). So a text that is sent in any number of frames, which
come in any pieces, is heard once and in its turn (`texts_heard`); a close frame cuts what is still open, and ends it
all (`close_heard`).
-/

namespace NautilusMt5.WebSocket

variable {p : Platform} {c c' : Connection} {f : Frame} {frames : List Frame} {acc : Option Data} {calls : List Call}

/-- The payloads that the frames carry; `acc` is what has been collected of the first. -/
def messages : Option Data → List Frame → List Data
  | _, [] => []
  | acc, f :: frames =>
    if f.isControlFrame then messages acc frames
    else if f.fin then (acc.getD [] ++ f.payloadData) :: messages none frames
    else messages (some (acc.getD [] ++ f.payloadData)) frames

/-- What has been collected of one more payload when the frames end. -/
def collected : Option Data → List Frame → Option Data
  | acc, [] => acc
  | acc, f :: frames =>
    if f.isControlFrame then collected acc frames
    else if f.fin then collected none frames
    else collected (some (acc.getD [] ++ f.payloadData)) frames

namespace Connection

/-- The open message has `acc`. -/
structure Collecting (c : Connection) (acc : Option Data) : Prop where
  unfinished : ∀ m ∈ c.openMessage, m.isFinalised = false ∧ m.compressed = false
  payload : c.openMessage.map (fun m => m.frames.flatMap (·.payloadData)) = acc

/-- The message that takes the frame. -/
theorem takenBy_collecting (h : Collecting c acc) (hplain : f.rsv1 = false) :
    (takenBy c.openMessage f).compressed = false ∧ (takenBy c.openMessage f).isFinalised = f.fin ∧
      (takenBy c.openMessage f).frames.flatMap (·.payloadData) = acc.getD [] ++ f.payloadData := by
  obtain ⟨hunfinished, rfl⟩ := h
  unfold takenBy
  cases hm : c.openMessage with
  | none => simp [Message.takeFrame, Message.isFinalised, hplain]
  | some m =>
    obtain ⟨hfinal, hcompressed⟩ := hunfinished m hm
    simp only [hfinal, Bool.false_eq_true, if_false]
    simp [hcompressed, Message.takeFrame, Message.isFinalised]

/-- A control frame that does not close leaves the open message alone. -/
theorem processFrame_control (hcontrol : f.isControlFrame = true) (hclose : f.opcode ≠ Opcode.closeFrame)
    (h : Collecting c acc) :
    ∃ c', c.processFrame p f = ((c', false), []) ∧ Collecting c' acc ∧ c'.closeRequested = c.closeRequested := by
  have hcode : (f.opcode == Opcode.closeFrame) = false := beq_false_of_ne hclose
  have hpong : ((pong p f).opcode == Opcode.closeFrame) = false := rfl
  simp only [processFrame, hcontrol, if_true, processControlFrame, hclose, if_false, hcode]
  split_ifs
  · exact ⟨_, rfl, ⟨h.unfinished, h.payload⟩, by simp [sendFrame, hpong]⟩
  · exact ⟨c, rfl, h, rfl⟩

/-- **The connection collects the messages.** -/
theorem processFrames_messages (hclose : ∀ f ∈ frames, f.opcode ≠ Opcode.closeFrame)
    (hplain : ∀ f ∈ frames, f.rsv1 = false) (h : Collecting c acc) :
    ∃ (c' : Connection) (ms : List Message),
      processFrames p (c, false) frames = ((c', false), ms.map Call.onMessage) ∧
        ms.map (·.getString p) = (messages acc frames).map (fun d => some (Mql.charArrayToString p.garbled d)) ∧
        Collecting c' (collected acc frames) ∧ c'.closeRequested = c.closeRequested := by
  induction frames generalizing c acc with
  | nil => exact ⟨c, [], rfl, rfl, h, rfl⟩
  | cons f frames ih =>
    obtain ⟨hf, hclose⟩ := List.forall_mem_cons.mp hclose
    obtain ⟨hfplain, hplain⟩ := List.forall_mem_cons.mp hplain
    simp only [processFrames, messages, collected]
    cases hcontrol : f.isControlFrame with
    | true =>
      obtain ⟨c₁, hprocess, h₁, hrequested⟩ := processFrame_control (p := p) hcontrol hf h
      rw [hprocess, ← hrequested]
      exact ih hclose hplain h₁
    | false =>
      obtain ⟨hcompressed, hfinal, hpayload⟩ := takenBy_collecting h hfplain
      simp only [processFrame, hcontrol, processMessageFrame, hfinal, Bool.false_eq_true, if_false]
      cases hfin : f.fin with
      | true =>
        rw [hfin] at hfinal
        have hnone : Collecting { c with openMessage := none } none := ⟨by simp, rfl⟩
        obtain ⟨c', ms, hprocess, hstrings, hstate⟩ := ih hclose hplain hnone
        have hfirst : (takenBy c.openMessage f).getString p =
            some (Mql.charArrayToString p.garbled (acc.getD [] ++ f.payloadData)) := by
          simp [Message.getString, Message.extract, hfinal, hcompressed, hpayload]
        exact ⟨c', takenBy c.openMessage f :: ms, by simp [hprocess], by simp [hfirst, hstrings], hstate⟩
      | false =>
        rw [hfin] at hfinal
        exact ih hclose hplain (c := { c with openMessage := some (takenBy c.openMessage f) })
          ⟨by rintro _ ⟨⟩; exact ⟨hfinal, hcompressed⟩, congrArg some hpayload⟩

/-- Nothing is half read. -/
structure Idle (c : Connection) : Prop where
  steady : Steady (c, false)
  lastFrame : c.lastFrame = none
  openMessage : c.openMessage = none

theorem Idle.collecting (h : Idle c) : Collecting c none := ⟨by simp [h.openMessage], by simp [h.openMessage]⟩

/-! ## Texts -/

variable {ws : List WireFrame} {pieces : List Data}

theorem processFrames_wires (hc : Idle c) (hclose : ∀ w ∈ ws, w.opcode ≠ Opcode.closeFrame)
    (hplain : ∀ w ∈ ws, w.rsv1 = false) :
    ∃ (c' : Connection) (ms : List Message),
      processFrames p (c, false) (ws.map (·.frame)) = ((c', false), ms.map Call.onMessage) ∧
        ms.map (·.getString p) =
          (messages none (ws.map (·.frame))).map (fun d => some (Mql.charArrayToString p.garbled d)) ∧
        Collecting c' (collected none (ws.map (·.frame))) ∧ c'.closeRequested = c.closeRequested :=
  processFrames_messages (List.forall_mem_map.mpr hclose) (List.forall_mem_map.mpr hplain) hc.collecting

/-- Frames that carry texts make calls that have them. -/
theorem processFrames_texts (hc : Idle c) (hclose : ∀ w ∈ ws, w.opcode ≠ Opcode.closeFrame)
    (hplain : ∀ w ∈ ws, w.rsv1 = false) {texts : List (List Char)} (hnul : ∀ text ∈ texts, Char.ofNat 0 ∉ text)
    (hcarried : messages none (ws.map (·.frame)) = texts.map Mql.utf8) :
    ∃ (c' : Connection) (ms : List Message), ms.map (·.getString p) = texts.map some ∧
      processFrames p (c, false) (ws.map (·.frame)) = ((c', false), ms.map Call.onMessage) := by
  obtain ⟨c', ms, hprocess, hstrings, -⟩ := processFrames_wires (p := p) hc hclose hplain
  refine ⟨c', ms, ?_, hprocess⟩
  rw [hstrings, hcarried, List.map_map]
  refine List.map_congr_left fun text htext => ?_
  exact congrArg some (Mql.charArrayToString_utf8 p.garbled (hnul text htext))

/-- **A text is heard once and in its turn**, in however many frames it was sent and in whatever pieces they came. -/
theorem texts_heard (hc : Idle c) (ws : List WireFrame) (hclose : ∀ w ∈ ws, w.opcode ≠ Opcode.closeFrame)
    (hplain : ∀ w ∈ ws, w.rsv1 = false) {texts : List (List Char)} (hnul : ∀ text ∈ texts, Char.ofNat 0 ∉ text)
    (hcarried : messages none (ws.map (·.frame)) = texts.map Mql.utf8) (hflat : pieces.flatten = ws.flatMap (·.bytes))
    (hcuts : ∀ read, read <+: pieces → ¬ InHeader ws read.flatten.length) :
    ∃ (c' : Connection) (ms : List Message), ms.map (·.getString p) = texts.map some ∧
      ∀ c'' calls, Reads p pieces c c'' calls ↔ c'' = c' ∧ calls = ms.map Call.onMessage := by
  obtain ⟨c', ms, hstrings, hprocess⟩ := processFrames_texts (p := p) hc hclose hplain hnul hcarried
  exact ⟨c', ms, hstrings, fun c'' calls => by rw [reads_iff ws hflat hcuts hc.steady hc.lastFrame, hprocess]⟩

/-- `hé` in two frames that come in three pieces, with a ping between them. -/
theorem texts_heard_fragments :
    ∃ (c' : Connection) (ms : List Message),
      ms.map (·.getString ⟨fun _ => [], fun _ => none, fun _ => 0⟩) = ["hé".toList].map some ∧
        ∀ c'' calls, Reads ⟨fun _ => [], fun _ => none, fun _ => 0⟩
          [[0x01, 1, 0x68, 0x89, 0], [0x80, 2, 0xC3], [0xA9]] {} c'' calls ↔
            c'' = c' ∧ calls = ms.map Call.onMessage :=
  texts_heard ⟨⟨rfl, rfl, rfl⟩, rfl, rfl⟩
    [⟨false, false, false, false, Opcode.textFrame, none, .short, [0x68], by decide, by decide, by decide⟩,
      ⟨true, false, false, false, Opcode.pingFrame, none, .short, [], by decide, by decide, by decide⟩,
      ⟨true, false, false, false, Opcode.continuationFrame, none, .short, [0xC3, 0xA9],
        by decide, by decide, by decide⟩]
    (by decide) (by decide) (by decide) (by decide) (by decide)
    (cuts_of_inits (by decide))

/-! ## The close frame -/

theorem processFrames_append {c₁ : Connection} {before : List Frame} (after : List Frame)
    (h : processFrames p (c, false) before = ((c₁, false), calls)) :
    processFrames p (c, false) (before ++ after) =
      ((processFrames p (c₁, false) after).1, calls ++ (processFrames p (c₁, false) after).2) := by
  induction before generalizing c calls with
  | nil =>
    cases h
    rfl
  | cons f before ih =>
    simp only [processFrames, Prod.mk.injEq] at h
    obtain ⟨hstate, rfl⟩ := h
    rcases hprocess : c.processFrame p f with ⟨⟨c₂, closed⟩, o⟩
    rw [hprocess] at hstate
    cases closed with
    | true =>
      rw [processFrames_closed] at hstate
      cases hstate
    | false =>
      have hrest := ih (c := c₂) (Prod.ext hstate rfl)
      rw [List.cons_append, processFrames, hprocess]
      simp only [hrest, List.append_assoc]

/-- What a close frame makes of the open message. -/
theorem processFrame_close (hs : Steady (c, false)) (h : Collecting c acc) (hclose : f.opcode = Opcode.closeFrame) :
    ∃ (c' : Connection) (cut : List Message),
      c.processFrame p f = ((c', true), cut.map Call.onMessage ++ [Call.onDisconnect]) ∧
        cut.map (·.getString p) = if acc.isSome && !c.closeRequested then [none] else [] := by
  have hd : c.disconnecting = false := hs.disconnecting
  have hcontrol : f.isControlFrame = true := by simp [Frame.isControlFrame, hclose]
  have hcalls : (c.ackClose p).2 = (if c.closeRequested then [] else c.openMessage.toList).map Call.onMessage := by
    simp only [ackClose, hd, Bool.false_eq_true, if_false]
    split_ifs
    · rfl
    · cases c.openMessage <;> rfl
  have hend : (c.ackClose p).1.close.2 = [Call.onDisconnect] := by simp [close, c.ackClose_frame.2.1, hd]
  refine ⟨(c.ackClose p).1.close.1, if c.closeRequested then [] else c.openMessage.toList, ?_, ?_⟩
  · simp only [processFrame, hcontrol, if_true, processControlFrame, hclose, hcalls, hend, BEq.rfl]
  · obtain ⟨hunfinished, rfl⟩ := h
    cases hm : c.openMessage with
    | none => simp
    | some m =>
      -- the fragment is not final, so it has no string
      have hnone : m.getString p = none := by simp [Message.getString, Message.extract, (hunfinished m hm).1]
      cases c.closeRequested <;> simp [hnone]

/-- Frames with a close frame among them. -/
theorem processFrames_until_close (hc : Idle c) (hclose : ∀ w ∈ ws, w.opcode ≠ Opcode.closeFrame)
    (hplain : ∀ w ∈ ws, w.rsv1 = false) {w : WireFrame} (hw : w.opcode = Opcode.closeFrame) (after : List WireFrame) :
    ∃ (c' : Connection) (ms cut : List Message),
      processFrames p (c, false) ((ws ++ w :: after).map (·.frame)) =
          ((c', true), (ms ++ cut).map Call.onMessage ++ [Call.onDisconnect]) ∧
        ms.map (·.getString p) =
          (messages none (ws.map (·.frame))).map (fun d => some (Mql.charArrayToString p.garbled d)) ∧
        cut.map (·.getString p) =
          if (collected none (ws.map (·.frame))).isSome && !c.closeRequested then [none] else [] := by
  obtain ⟨c₁, ms, hprocess, hstrings, hcollecting, hrequested⟩ := processFrames_wires (p := p) hc hclose hplain
  have hs₁ : Steady (c₁, false) := by
    simpa only [hprocess] using steady_processFrames (p := p) hc.steady (ws.map (·.frame))
  obtain ⟨c', cut, hlast, hcut⟩ := processFrame_close (p := p) (f := w.frame) hs₁ hcollecting hw
  refine ⟨c', ms, cut, ?_, hstrings, by rw [hcut, hrequested]⟩
  rw [List.map_append, processFrames_append _ hprocess, List.map_cons, processFrames, hlast]
  simp [processFrames_closed]

/-- **The close frame**: what has been heard before it stays; of a message that is still open, the observer gets the
fragment, which has no text; then it hears of the end, once, and of nothing that came behind. -/
theorem close_heard (hc : Idle c) (ws : List WireFrame) (hclose : ∀ w ∈ ws, w.opcode ≠ Opcode.closeFrame)
    (hplain : ∀ w ∈ ws, w.rsv1 = false) (w : WireFrame) (hw : w.opcode = Opcode.closeFrame) (after : List WireFrame)
    (pieces : List Data)
    (hflat : pieces.flatten = (ws ++ w :: after).flatMap (·.bytes))
    (hcuts : ∀ read, read <+: pieces → ¬ InHeader (ws ++ w :: after) read.flatten.length) :
    ∃ (c' : Connection) (ms cut : List Message),
      ms.map (·.getString p) =
          (messages none (ws.map (·.frame))).map (fun d => some (Mql.charArrayToString p.garbled d)) ∧
        cut.map (·.getString p) =
          (if (collected none (ws.map (·.frame))).isSome && !c.closeRequested then [none] else []) ∧
        ∀ c'' calls, Reads p pieces c c'' calls ↔
          c'' = c' ∧ calls = (ms ++ cut).map Call.onMessage ++ [Call.onDisconnect] := by
  obtain ⟨c', ms, cut, hprocess, hstrings, hcut⟩ := processFrames_until_close (p := p) hc hclose hplain hw after
  exact ⟨c', ms, cut, hstrings, hcut, fun c'' calls => by rw [reads_iff _ hflat hcuts hc.steady hc.lastFrame, hprocess]⟩

/-- Half a text, a close frame, and a whole text behind it. -/
theorem close_heard_open :
    ∃ (c' : Connection) (ms cut : List Message),
      ms.map (·.getString ⟨fun _ => [], fun _ => none, fun _ => 0⟩) = [] ∧
        cut.map (·.getString ⟨fun _ => [], fun _ => none, fun _ => 0⟩) = [none] ∧
        ∀ c'' calls, Reads ⟨fun _ => [], fun _ => none, fun _ => 0⟩
          [[0x01, 1, 0x68, 0x88, 0], [0x81, 1, 0x68]] {} c'' calls ↔
            c'' = c' ∧ calls = (ms ++ cut).map Call.onMessage ++ [Call.onDisconnect] :=
  close_heard (p := ⟨fun _ => [], fun _ => none, fun _ => 0⟩) (c := {}) ⟨⟨rfl, rfl, rfl⟩, rfl, rfl⟩
    [⟨false, false, false, false, Opcode.textFrame, none, .short, [0x68], by decide, by decide, by decide⟩]
    (by decide) (by decide)
    ⟨true, false, false, false, Opcode.closeFrame, none, .short, [], by decide, by decide, by decide⟩ rfl
    [⟨true, false, false, false, Opcode.textFrame, none, .short, [0x68], by decide, by decide, by decide⟩]
    [[0x01, 1, 0x68, 0x88, 0], [0x81, 1, 0x68]] (by decide) (cuts_of_inits (by decide))

end Connection

end NautilusMt5.WebSocket
