import NautilusMt5.Feed.Commands
import NautilusMt5.Feed.Messages
import NautilusMt5.Feed.WireMessages

/-!
# Handling a text at the Service (`NT5TickFeedService.mq5`, `NT5HandleWireMessage`)

What comes from the adapter is a text. The Service looks for its op, its symbols and its timeframe, changes its
subscriptions and answers with texts. A command that the adapter has written is handled as the command
(`handleWireMessage_encode`).
-/

namespace NautilusMt5

open Mql

/-- The terminal of the Service. -/
structure ServiceTerminal where
  terminalName : List Char
  accountLogin : ℤ
  /-- `SymbolSelect` finds the symbol. -/
  symbolSelect : String → Bool
  /-- `StringTrimLeft` and `StringTrimRight`. -/
  stringTrim : List Char → List Char
  /-- `StringToUpper`; `none` when it returns false. -/
  stringToUpper : List Char → Option (List Char)

/-- `NT5BuildPongJson`. -/
def nt5BuildPongJson : List Char := "\x7b\"op\":\"pong\"\x7d".toList

/-- `NT5BuildErrorJson`. -/
def nt5BuildErrorJson (code message : List Char) : List Char :=
  stringFormat "\x7b\"op\":\"error\",\"code\":\"%s\",\"message\":\"%s\"\x7d".toList
    [nt5JsonEscape code, nt5JsonEscape message]

namespace ServiceTerminal

variable (t : ServiceTerminal)

/-- `NT5TimeframeFromString`. -/
def nt5TimeframeFromString (raw : List Char) : Option Timeframe :=
  (t.stringToUpper (t.stringTrim raw)).bind fun tf => Timeframe.ofToken? (String.ofList tf)

/-- `NT5ActivateSymbol`. -/
def nt5ActivateSymbol (d : Dict String Bool) (symbol : String) : Dict String Bool × Bool :=
  if t.symbolSelect symbol then ServiceSubscriptions.nt5ActivateSymbol d symbol else (d, false)

/-- `NT5ActivateBar`. -/
def nt5ActivateBar (d : Dict BarKey Bool) (k : BarKey) : Dict BarKey Bool × Bool :=
  if t.symbolSelect k.1 then ServiceSubscriptions.nt5ActivateBar d k else (d, false)

variable (session : List Char) (sv : ServiceSubscriptions)

/-- What `NT5SendHello` sends. -/
def hello : List Char :=
  nt5BuildHelloJson t.terminalName t.accountLogin session (sv.nt5ListActiveSymbols.map String.toList)
    (sv.nt5ListActiveBarSpecs.map fun k => nt5BarSpecToJson k.1.toList k.2.token.toList)

/-- The subscriptions after a loop over the symbols, and the hello when one of them has changed. -/
def announce (sv : ServiceSubscriptions) (changed : Bool) : ServiceSubscriptions × List (List Char) :=
  (sv, if changed then [t.hello session sv] else [])

/-- `NT5HandleSubscribeBars`, with what it sends. -/
def nt5HandleSubscribeBars (json : List Char) (subscribe : Bool) : ServiceSubscriptions × List (List Char) :=
  match nt5ExtractJsonStringArray json "symbols".toList with
  | none => (sv, [])
  | some symbols =>
    match nt5ExtractJsonStringField json "timeframe".toList with
    | none => (sv, [nt5BuildErrorJson "missing_timeframe".toList "subscribe_bars requires timeframe".toList])
    | some raw =>
      match t.nt5TimeframeFromString raw with
      | none => (sv, [nt5BuildErrorJson "invalid_timeframe".toList raw])
      | some period =>
        let r := forEach (if subscribe then t.nt5ActivateBar else ServiceSubscriptions.nt5DeactivateBar) sv.bars
          (symbols.map fun symbol => (String.ofList symbol, period))
        t.announce session { sv with bars := r.1 } r.2

/-- The branches of `NT5HandleWireMessage` for quotes, with what they send. -/
def handleSubscribe (json : List Char) (f : Dict String Bool → String → Dict String Bool × Bool) :
    ServiceSubscriptions × List (List Char) :=
  match nt5ExtractJsonStringArray json "symbols".toList with
  | none => (sv, [])
  | some symbols =>
    let r := forEach f sv.symbols (symbols.map String.ofList)
    t.announce session { sv with symbols := r.1 } r.2

/-- `NT5HandleWireMessage`, with what it sends. -/
def nt5HandleWireMessage (json : List Char) : ServiceSubscriptions × List (List Char) :=
  match nt5ParseWireOp json with
  | none => (sv, [])
  | some op =>
    if op = "subscribe".toList then t.handleSubscribe session sv json t.nt5ActivateSymbol
    else if op = "unsubscribe".toList then
      t.handleSubscribe session sv json ServiceSubscriptions.nt5DeactivateSymbol
    else if op = "subscribe_bars".toList then t.nt5HandleSubscribeBars session sv json true
    else if op = "unsubscribe_bars".toList then t.nt5HandleSubscribeBars session sv json false
    else if op = "ping".toList then (sv, [nt5BuildPongJson])
    else (sv, [])

/-! ## Commands of the adapter -/

/-- The terminal leaves the tokens of timeframes as they are. -/
def KeepsTokens : Prop :=
  ∀ tf : Timeframe, t.stringTrim tf.token.toList = tf.token.toList ∧
    t.stringToUpper tf.token.toList = some tf.token.toList

end ServiceTerminal

/-- The command can be read, and the terminal knows its symbols. -/
structure Command.Arrives (t : ServiceTerminal) (c : Command) : Prop where
  recoverable : c.Recoverable
  named : ∀ s ∈ c.symbols, s ≠ ""
  known : ∀ s ∈ c.symbols, t.symbolSelect s = true

theorem Command.Recoverable.recovered {c : Command} (h : c.Recoverable) (hne : ∀ s ∈ c.symbols, s ≠ "") :
    c.Recovered where
  op := op_recovered c
  symbols := (symbols_recovered_iff c hne).mpr h.safe
  timeframe tf htf := (timeframe_recovered_iff htf h.safe).mpr (h.notHidden (by simp [htf]))

/-- Keys that the terminal knows are activated as where every symbol is known. -/
theorem forEach_congr {κ : Type} {f g : Dict κ Bool → κ → Dict κ Bool × Bool} {ks : List κ}
    (h : ∀ k ∈ ks, ∀ d, f d k = g d k) (d : Dict κ Bool) : forEach f d ks = forEach g d ks := by
  unfold forEach
  exact List.foldl_ext _ _ _ fun r k hk => by rw [h k hk]

namespace ServiceTerminal

variable {t : ServiceTerminal} {session : List Char} {sv : ServiceSubscriptions} {c : Command}

theorem nt5TimeframeFromString_token (ht : t.KeepsTokens) (tf : Timeframe) :
    t.nt5TimeframeFromString tf.token.toList = some tf := by
  obtain ⟨htrim, hupper⟩ := ht tf
  simp [nt5TimeframeFromString, htrim, hupper]

theorem map_ofList_toList (symbols : List String) : (symbols.map String.toList).map String.ofList = symbols := by
  rw [List.map_map]
  exact List.map_id'' (fun s => String.ofList_toList) symbols

/-- What is sent when a command has been handled. -/
def answers (t : ServiceTerminal) (session : List Char) (sv : ServiceSubscriptions) (c : Command) : List (List Char) :=
  if (sv.nt5HandleWireMessage c).2 then [t.hello session (sv.nt5HandleWireMessage c).1] else []

/-- The loop over symbols that the terminal knows. -/
theorem forEach_activateSymbol {symbols : List String} (h : ∀ s ∈ symbols, t.symbolSelect s = true)
    (d : Dict String Bool) :
    forEach t.nt5ActivateSymbol d symbols = forEach ServiceSubscriptions.nt5ActivateSymbol d symbols :=
  forEach_congr (fun s hs d => by rw [nt5ActivateSymbol, if_pos (h s hs)]) d

theorem forEach_activateBar {symbols : List String} (h : ∀ s ∈ symbols, t.symbolSelect s = true) (tf : Timeframe)
    (d : Dict BarKey Bool) : forEach t.nt5ActivateBar d (symbols.map fun s => (s, tf)) =
      forEach ServiceSubscriptions.nt5ActivateBar d (symbols.map fun s => (s, tf)) := by
  refine forEach_congr (fun k hk d => ?_) d
  obtain ⟨s, hs, rfl⟩ := List.mem_map.mp hk
  rw [nt5ActivateBar, if_pos (h s hs)]

theorem map_keys (symbols : List String) (tf : Timeframe) :
    (symbols.map String.toList).map (fun symbol => (String.ofList symbol, tf)) = symbols.map fun s => (s, tf) := by
  simp

/-- The branch of a command. -/
def branch (t : ServiceTerminal) (session : List Char) (sv : ServiceSubscriptions) (json : List Char) :
    Command → ServiceSubscriptions × List (List Char)
  | .subscribe _ => t.handleSubscribe session sv json t.nt5ActivateSymbol
  | .unsubscribe _ => t.handleSubscribe session sv json ServiceSubscriptions.nt5DeactivateSymbol
  | .subscribeBars _ _ => t.nt5HandleSubscribeBars session sv json true
  | .unsubscribeBars _ _ => t.nt5HandleSubscribeBars session sv json false

/-- The ops are different words. -/
theorem handleWireMessage_of_op {json : List Char} (hop : nt5ParseWireOp json = some c.op.toList) :
    t.nt5HandleWireMessage session sv json = t.branch session sv json c := by
  have h₁ : "unsubscribe".toList ≠ "subscribe".toList := by decide
  have h₂ : "subscribe_bars".toList ≠ "subscribe".toList := by decide
  have h₃ : "subscribe_bars".toList ≠ "unsubscribe".toList := by decide
  have h₄ : "unsubscribe_bars".toList ≠ "subscribe".toList := by decide
  have h₅ : "unsubscribe_bars".toList ≠ "unsubscribe".toList := by decide
  have h₆ : "unsubscribe_bars".toList ≠ "subscribe_bars".toList := by decide
  simp only [nt5HandleWireMessage, hop]
  cases c with
  | subscribe symbols => exact if_pos rfl
  | unsubscribe symbols => exact (if_neg h₁).trans (if_pos rfl)
  | subscribeBars symbols tf => exact (if_neg h₂).trans ((if_neg h₃).trans (if_pos rfl))
  | unsubscribeBars symbols tf => exact (if_neg h₄).trans ((if_neg h₅).trans ((if_neg h₆).trans (if_pos rfl)))

/-- **A command is handled as it was written.** -/
theorem handleWireMessage_encode (ht : t.KeepsTokens) (h : c.Arrives t) :
    t.nt5HandleWireMessage session sv c.encode = ((sv.nt5HandleWireMessage c).1, t.answers session sv c) := by
  obtain ⟨hop, hsymbols, htimeframe⟩ := h.recoverable.recovered h.named
  have hknown := h.known
  rw [handleWireMessage_of_op hop]
  cases c with
  | subscribe symbols =>
    have hloop := forEach_activateSymbol (show ∀ s ∈ symbols, t.symbolSelect s = true from hknown)
    rw [branch, handleSubscribe, hsymbols]
    simp only [Command.symbols, map_ofList_toList, hloop]
    rfl
  | unsubscribe symbols =>
    rw [branch, handleSubscribe, hsymbols]
    simp only [Command.symbols, map_ofList_toList]
    rfl
  | subscribeBars symbols tf =>
    have hloop := forEach_activateBar (show ∀ s ∈ symbols, t.symbolSelect s = true from hknown) tf
    rw [branch, nt5HandleSubscribeBars, hsymbols, htimeframe tf rfl]
    simp only [Command.symbols, nt5TimeframeFromString_token ht, map_keys, if_true, hloop]
    rfl
  | unsubscribeBars symbols tf =>
    rw [branch, nt5HandleSubscribeBars, hsymbols, htimeframe tf rfl]
    simp only [Command.symbols, nt5TimeframeFromString_token ht, map_keys, Bool.false_eq_true, if_false]
    rfl

end ServiceTerminal

end NautilusMt5
