import NautilusMt5.Lib.Memo
import NautilusMt5.Lib.Py
import Mathlib.Algebra.Order.Ring.Rat

/-!
# The factories (`factories.py`, `config.py`)

The factories of data and execution clients take the shared `MetaTrader5Client` of their configuration from a table, and
put a new one there when the table has none. The key has the fields that name the terminal, and not the others.

* `shared_iff`: two creations share their client just when their configurations name the same terminal;
* `client_of_first`: a shared client has the configuration of its first creation, and knows of a feed once a data client
  with one was created over it.
-/

namespace NautilusMt5

open Py

/-! ## The configurations -/

structure ExternalRPyCTerminalConfig where
  host : String
  port : ℤ
  keepAlive : Bool := false
  timeoutSecs : Option ℚ := none
  label : Option String := none
  deriving DecidableEq, Repr

inductive ManagedTerminalBackend
  | localProcess
  | dockerized
  deriving DecidableEq, Repr

def ManagedTerminalBackend.name : ManagedTerminalBackend → String
  | .localProcess => "LOCAL_PROCESS"
  | .dockerized => "DOCKERIZED"

structure ManagedTerminalConfig where
  backend : ManagedTerminalBackend
  deriving DecidableEq, Repr

structure LocalPythonTerminalConfig where
  path : Option String := none
  login : Option ℤ := none
  password : Option String := none
  server : Option String := none
  timeout : ℤ := 60000
  portable : Bool := false
  shutdownOnDisconnect : Bool := true
  deriving DecidableEq, Repr

structure EAConnectionConfig where
  host : String := "127.0.0.1"
  restPort : ℤ := 15556
  streamPort : ℤ := 15557
  encoding : String := "utf-8"
  useSocket : Bool := true
  enableStream : Bool := true
  debug : Bool := false
  deriving DecidableEq, Repr

structure RpycConnectionConfig where
  host : String
  port : ℤ
  keepAlive : Bool
  timeoutSecs : Option ℚ
  deriving DecidableEq, Repr

inductive MT5TerminalAccessMode
  | externalRpyc
  | localPython
  | managedTerminal
  deriving DecidableEq, Repr

/-- What a `MetaTrader5DataClientConfig` or `MetaTrader5ExecClientConfig` says of the terminal. -/
structure TerminalClientConfig where
  clientId : ℤ := 1
  terminalAccess : MT5TerminalAccessMode := .externalRpyc
  externalRpyc : Option ExternalRPyCTerminalConfig := none
  localPython : Option LocalPythonTerminalConfig := none
  managedTerminal : Option ManagedTerminalConfig := none
  eaConfig : Option EAConnectionConfig := none
  deriving DecidableEq, Repr

/-- The key of the table: what names the terminal. -/
inductive ClientKey
  | localPython (clientId : ℤ) (path : Option String) (login : Option ℤ) (server : Option String) (timeout : ℤ)
    (portable : Bool) (eaHost : String) (restPort streamPort : ℤ)
  | externalRpyc (clientId : ℤ) (host : String) (port : ℤ) (keepAlive : Bool) (timeoutSecs : Option ℚ) (eaHost : String)
    (restPort streamPort : ℤ)
  deriving DecidableEq, Repr

/-- `mt5_config` of the shared client. -/
inductive Mt5ConfigPayload
  | localPython (localPython : LocalPythonTerminalConfig) (ea : EAConnectionConfig)
  | rpyc (rpyc : RpycConnectionConfig) (ea : EAConnectionConfig)
  deriving DecidableEq, Repr

/-! ## The shared clients -/

/-- A shared `MetaTrader5Client`, as the factories make it. -/
structure CachedClient where
  terminalAccess : MT5TerminalAccessMode
  clientId : ℤ
  mt5Config : Mt5ConfigPayload
  liveQuoteFeedEnabled : Bool := false
  deriving DecidableEq, Repr

namespace TerminalClientConfig

variable (config : TerminalClientConfig)

/-- `ea_config or EAConnectionConfig()`. -/
def ea : EAConnectionConfig := config.eaConfig.getD {}

/-- The key and the payload of `get_resolved_mt5_client`, or what it raises. -/
def resolve : Except Error (ClientKey × Mt5ConfigPayload) :=
  match config.terminalAccess with
  | .localPython =>
    if config.externalRpyc ≠ none then
      .error (.valueError "external_rpyc config must be None for LOCAL_PYTHON terminal access.")
    else if config.managedTerminal ≠ none then
      .error (.valueError "managed_terminal config must be None for LOCAL_PYTHON terminal access.")
    else
      match config.localPython with
      | none => .error (.valueError "local_python config is required for LOCAL_PYTHON terminal access.")
      | some lp =>
        .ok (.localPython config.clientId lp.path lp.login lp.server lp.timeout lp.portable config.ea.host
          config.ea.restPort config.ea.streamPort, .localPython lp config.ea)
  | .externalRpyc =>
    if config.managedTerminal ≠ none then
      .error (.valueError "managed_terminal config must be None for EXTERNAL_RPYC terminal access.")
    else
      match config.externalRpyc with
      | none => .error (.valueError "external_rpyc config is required for EXTERNAL_RPYC terminal access.")
      | some rpyc =>
        .ok (.externalRpyc config.clientId rpyc.host rpyc.port rpyc.keepAlive rpyc.timeoutSecs config.ea.host
          config.ea.restPort config.ea.streamPort,
          .rpyc ⟨rpyc.host, rpyc.port, rpyc.keepAlive, rpyc.timeoutSecs⟩ config.ea)
  | .managedTerminal =>
    if config.externalRpyc ≠ none then
      .error (.valueError "external_rpyc config must be None for MANAGED_TERMINAL terminal access.")
    else
      match config.managedTerminal with
      | none => .error (.valueError "managed_terminal config is required for MANAGED_TERMINAL terminal access.")
      | some managed =>
        .error (.runtimeError
          ("MANAGED_TERMINAL access mode was recognized, but the backend 'ManagedTerminalBackend." ++
          managed.backend.name ++ "' is not yet implemented in this phase."))

end TerminalClientConfig

/-- A data client with or without a feed, or an execution client, is created; `started` is what the constructor and
`start` of a new shared client do. -/
structure CreateRequest where
  config : TerminalClientConfig
  /-- `config.feed.enabled` of a data client. -/
  feedEnabled : Bool := false
  started : Except Error Unit := .ok ()

/-- `MT5_CLIENTS`, and the creations so far with the shared clients they got; the code keeps the table only. -/
structure Factories where
  clients : Memo ClientKey CachedClient := {}
  got : List (CreateRequest × ℕ) := []

namespace Factories

variable (f : Factories)

/-- `get_resolved_mt5_client`. -/
def getResolvedMt5Client (config : TerminalClientConfig) (started : Except Error Unit) :
    Memo ClientKey CachedClient × Except Error ℕ :=
  match config.resolve with
  | .error e => (f.clients, .error e)
  | .ok (key, payload) =>
    f.clients.get key (started.map fun _ => ⟨config.terminalAccess, config.clientId, payload, false⟩)

/-- `create` of the factories. -/
def create (r : CreateRequest) : Factories :=
  match f.getResolvedMt5Client r.config r.started with
  | (clients, .error _) => { f with clients }
  | (clients, .ok id) =>
    { clients := if r.feedEnabled then clients.modify id fun c => { c with liveQuoteFeedEnabled := true } else clients
      got := f.got ++ [(r, id)] }

/-- All creations, one after the other. -/
def creates (rs : List CreateRequest) : Factories := rs.foldl create {}

end Factories

/-! ## Terminals -/

/-- What names a gateway. -/
def ExternalRPyCTerminalConfig.gateway (c : ExternalRPyCTerminalConfig) : String × ℤ × Bool × Option ℚ :=
  (c.host, c.port, c.keepAlive, c.timeoutSecs)

/-- What names a local terminal: all but the password, and whether it is shut down. -/
def LocalPythonTerminalConfig.terminal (c : LocalPythonTerminalConfig) :
    Option String × Option ℤ × Option String × ℤ × Bool := (c.path, c.login, c.server, c.timeout, c.portable)

/-- Where the expert advisor listens. -/
def EAConnectionConfig.address (c : EAConnectionConfig) : String × ℤ × ℤ := (c.host, c.restPort, c.streamPort)

namespace TerminalClientConfig

variable {config config' : TerminalClientConfig} {key key' : ClientKey} {payload payload' : Mt5ConfigPayload}

/-- The configurations name the same terminal. -/
structure SameTerminal (config config' : TerminalClientConfig) : Prop where
  access : config.terminalAccess = config'.terminalAccess
  clientId : config.clientId = config'.clientId
  ea : config.ea.address = config'.ea.address
  gateway : config.terminalAccess = .externalRpyc →
    config.externalRpyc.map ExternalRPyCTerminalConfig.gateway =
      config'.externalRpyc.map ExternalRPyCTerminalConfig.gateway
  terminal : config.terminalAccess = .localPython →
    config.localPython.map LocalPythonTerminalConfig.terminal =
      config'.localPython.map LocalPythonTerminalConfig.terminal

/-- **What is resolved**: a local terminal or a gateway. -/
theorem resolve_eq_ok (h : config.resolve = .ok (key, payload)) :
    (∃ lp, config.terminalAccess = .localPython ∧ config.localPython = some lp ∧
      key = .localPython config.clientId lp.path lp.login lp.server lp.timeout lp.portable config.ea.host
        config.ea.restPort config.ea.streamPort) ∨
    ∃ rpyc, config.terminalAccess = .externalRpyc ∧ config.externalRpyc = some rpyc ∧
      key = .externalRpyc config.clientId rpyc.host rpyc.port rpyc.keepAlive rpyc.timeoutSecs config.ea.host
        config.ea.restPort config.ea.streamPort := by
  unfold resolve at h
  cases haccess : config.terminalAccess with
  | localPython =>
    simp only [haccess] at h
    split_ifs at h
    split at h
    · cases h
    · rename_i lp hlp
      cases h
      exact .inl ⟨lp, rfl, hlp, rfl⟩
  | externalRpyc =>
    simp only [haccess] at h
    split_ifs at h
    split at h
    · cases h
    · rename_i rpyc hrpyc
      cases h
      exact .inr ⟨rpyc, rfl, hrpyc, rfl⟩
  | managedTerminal =>
    simp only [haccess] at h
    split_ifs at h
    split at h <;> cases h

/-- **The key names the terminal.** -/
theorem key_eq_iff (h : config.resolve = .ok (key, payload)) (h' : config'.resolve = .ok (key', payload')) :
    key = key' ↔ SameTerminal config config' := by
  rcases resolve_eq_ok h with ⟨lp, haccess, hlp, rfl⟩ | ⟨rpyc, haccess, hrpyc, rfl⟩ <;>
    rcases resolve_eq_ok h' with ⟨lp', haccess', hlp', rfl⟩ | ⟨rpyc', haccess', hrpyc', rfl⟩
  · constructor
    · intro hkey
      obtain ⟨hid, hpath, hlogin, hserver, htimeout, hportable, hea⟩ := ClientKey.localPython.inj hkey
      refine ⟨haccess.trans haccess'.symm, hid, ?_, fun hext => ?_, fun _ => ?_⟩
      · simpa [EAConnectionConfig.address] using hea
      · rw [haccess] at hext
        cases hext
      · simp [hlp, hlp', LocalPythonTerminalConfig.terminal, hpath, hlogin, hserver, htimeout, hportable]
    · intro hsame
      have hterminal := hsame.terminal haccess
      have hea := hsame.ea
      rw [hlp, hlp'] at hterminal
      simp only [Option.map_some, Option.some.injEq, LocalPythonTerminalConfig.terminal, EAConnectionConfig.address,
        Prod.mk.injEq] at hterminal hea
      simp [hsame.clientId, hterminal, hea]
  · refine iff_of_false (fun hkey => (by cases hkey)) fun hsame => ?_
    have haccess := haccess.symm.trans (hsame.access.trans haccess')
    cases haccess
  · refine iff_of_false (fun hkey => (by cases hkey)) fun hsame => ?_
    have haccess := haccess.symm.trans (hsame.access.trans haccess')
    cases haccess
  · constructor
    · intro hkey
      obtain ⟨hid, hhost, hport, halive, htimeout, hea⟩ := ClientKey.externalRpyc.inj hkey
      refine ⟨haccess.trans haccess'.symm, hid, ?_, fun _ => ?_, fun hlocal => ?_⟩
      · simpa [EAConnectionConfig.address] using hea
      · simp [hrpyc, hrpyc', ExternalRPyCTerminalConfig.gateway, hhost, hport, halive, htimeout]
      · rw [haccess] at hlocal
        cases hlocal
    · intro hsame
      have hgateway := hsame.gateway haccess
      have hea := hsame.ea
      rw [hrpyc, hrpyc'] at hgateway
      simp only [Option.map_some, Option.some.injEq, ExternalRPyCTerminalConfig.gateway, EAConnectionConfig.address,
        Prod.mk.injEq] at hgateway hea
      simp [hsame.clientId, hgateway, hea]

end TerminalClientConfig

/-! ## Runs -/

/-- A client after a creation, which may have got it for a data client with a feed. -/
def CachedClient.serve (c : CachedClient) (feeds : Bool) : CachedClient :=
  { c with liveQuoteFeedEnabled := c.liveQuoteFeedEnabled || feeds }

namespace Factories

variable {f f' : Factories} {r : CreateRequest}

/-- The creation that got the client. -/
def record (f : Factories) (clients : Memo ClientKey CachedClient) (r : CreateRequest) (id : ℕ) : Factories where
  clients := if r.feedEnabled then clients.modify id fun c => { c with liveQuoteFeedEnabled := true } else clients
  got := f.got ++ [(r, id)]

/-- **A creation** fails, or gets the client of its key, or a new one. -/
theorem create_cases (f : Factories) (r : CreateRequest) :
    f.create r = f ∨ ∃ key payload, r.config.resolve = .ok (key, payload) ∧
      ((∃ id, f.clients.ids.get? key = some id ∧ f.create r = f.record f.clients r id) ∨
        f.clients.ids.get? key = none ∧ f.create r = f.record
          ⟨f.clients.ids.set key f.clients.made.length,
            f.clients.made ++ [⟨r.config.terminalAccess, r.config.clientId, payload, false⟩]⟩
          r f.clients.made.length) := by
  unfold create getResolvedMt5Client
  cases hresolve : r.config.resolve with
  | error e => exact .inl rfl
  | ok resolved =>
    obtain ⟨key, payload⟩ := resolved
    simp only
    generalize hget : f.clients.get key (r.started.map fun _ => _) = got
    obtain ⟨clients, result⟩ := got
    rcases Memo.get_cases hget with ⟨id, hid, rfl, rfl⟩ | ⟨e, -, rfl, rfl⟩ | ⟨c, hnone, hstarted, rfl, rfl⟩
    · exact .inr ⟨key, payload, rfl, .inl ⟨id, hid, rfl⟩⟩
    · exact .inl rfl
    · cases hr : r.started with
      | error e =>
        rw [hr] at hstarted
        cases hstarted
      | ok started =>
        rw [hr] at hstarted
        cases hstarted
        exact .inr ⟨key, payload, rfl, .inr ⟨hnone, rfl⟩⟩

/-- The creation with the client's number that came first, and what the client has of it. -/
structure Origin (f : Factories) (id : ℕ) (c : CachedClient) : Prop where
  first : ∃ pre r post, f.got = pre ++ (r, id) :: post ∧ (∀ g ∈ pre, g.2 ≠ id) ∧
    c.terminalAccess = r.config.terminalAccess ∧ c.clientId = r.config.clientId ∧
      ∃ key, r.config.resolve = .ok (key, c.mt5Config)
  live : c.liveQuoteFeedEnabled = true ↔ ∃ g ∈ f.got, g.2 = id ∧ g.1.feedEnabled = true

/-- The table is valid, knows the keys of all creations, and every client in it has its origin. -/
structure Inv (f : Factories) : Prop where
  valid : f.clients.Valid
  known : ∀ g ∈ f.got, ∃ key payload, g.1.config.resolve = .ok (key, payload) ∧ f.clients.ids.get? key = some g.2
  origin : ∀ id c, f.clients.made[id]? = some c → f.Origin id c

theorem inv_init : Inv {} := ⟨Memo.valid_empty, fun _ h => (by cases h), fun _ _ h => (by cases h)⟩

/-- The clients after a creation. -/
theorem getElem?_record {clients : Memo ClientKey CachedClient} {i id : ℕ} {c : CachedClient}
    (h : (f.record clients r id).clients.made[i]? = some c) :
    ∃ c₀, clients.made[i]? = some c₀ ∧ c = CachedClient.serve c₀ (r.feedEnabled && decide (i = id)) := by
  unfold record at h
  cases hfeed : r.feedEnabled with
  | false =>
    simp only [hfeed, Bool.false_eq_true, if_false] at h
    exact ⟨c, h, by simp [CachedClient.serve]⟩
  | true =>
    simp only [hfeed, if_true, Memo.modify, List.getElem?_modify] at h
    obtain ⟨c₀, hc₀, rfl⟩ := Option.map_eq_some_iff.mp h
    refine ⟨c₀, hc₀, ?_⟩
    by_cases hi : id = i
    · simp [CachedClient.serve, hi]
    · simp [CachedClient.serve, hi, Ne.symm hi]

theorem ids_record (clients : Memo ClientKey CachedClient) (id : ℕ) :
    (f.record clients r id).clients.ids = clients.ids := by
  unfold record
  split_ifs <;> rfl

/-- The flag after a creation. -/
theorem live_record {c : CachedClient} {i id : ℕ}
    (h : c.liveQuoteFeedEnabled = true ↔ ∃ g ∈ f.got, g.2 = i ∧ g.1.feedEnabled = true)
    (clients : Memo ClientKey CachedClient) :
    (c.serve (r.feedEnabled && decide (i = id))).liveQuoteFeedEnabled = true ↔
      ∃ g ∈ (f.record clients r id).got, g.2 = i ∧ g.1.feedEnabled = true := by
  simp only [CachedClient.serve, Bool.or_eq_true, Bool.and_eq_true, decide_eq_true_eq, h, record, List.mem_append,
    List.mem_singleton, or_and_right, exists_or, exists_eq_left]
  exact or_congr Iff.rfl ⟨fun h => ⟨h.2.symm, h.1⟩, fun h => ⟨h.2, h.1.symm⟩⟩

/-- **Keeping the invariant**: a creation gets a client that is there, or a new one behind the others. -/
theorem Inv.record (h : Inv f) {clients : Memo ClientKey CachedClient} (hvalid : clients.Valid)
    (hkeeps : ∀ k i, f.clients.ids.get? k = some i → clients.ids.get? k = some i) {key : ClientKey}
    {payload : Mt5ConfigPayload} (hresolve : r.config.resolve = .ok (key, payload)) {id : ℕ}
    (hid : clients.ids.get? key = some id)
    (hmade : ∀ i c, clients.made[i]? = some c → f.clients.made[i]? = some c ∨
      i = id ∧ c = ⟨r.config.terminalAccess, r.config.clientId, payload, false⟩ ∧ ∀ g ∈ f.got, g.2 ≠ id) :
    Inv (f.record clients r id) where
  valid := by
    unfold Factories.record
    split_ifs
    · exact hvalid.modify _ _
    · exact hvalid
  known := by
    rw [ids_record]
    refine List.forall_mem_append.mpr ⟨fun g hg => ?_, List.forall_mem_singleton.mpr ⟨key, payload, hresolve, hid⟩⟩
    obtain ⟨key', payload', hresolve', hid'⟩ := h.known g hg
    exact ⟨key', payload', hresolve', hkeeps _ _ hid'⟩
  origin := by
    intro i c hc
    obtain ⟨c₀, hc₀, rfl⟩ := getElem?_record hc
    rcases hmade i c₀ hc₀ with hold | ⟨rfl, rfl, hnew⟩
    · obtain ⟨⟨pre, r₀, post, hgot, hpre, hof⟩, hlive⟩ := h.origin i c₀ hold
      refine ⟨⟨pre, r₀, post ++ [(r, id)], ?_, hpre, hof⟩, live_record hlive clients⟩
      show f.got ++ [(r, id)] = _
      rw [hgot, List.append_assoc, List.cons_append]
    · refine ⟨⟨f.got, r, [], rfl, hnew, rfl, rfl, key, hresolve⟩, live_record ?_ clients⟩
      exact iff_of_false Bool.false_ne_true fun ⟨g, hg, heq, _⟩ => hnew g hg heq

theorem inv_create (h : Inv f) (r : CreateRequest) : Inv (f.create r) := by
  rcases f.create_cases r with hsame | ⟨key, payload, hresolve, ⟨id, hid, hcreate⟩ | ⟨hnone, hcreate⟩⟩
  · rw [hsame]
    exact h
  · rw [hcreate]
    exact h.record h.valid (fun _ _ hk => hk) hresolve hid fun i c hc => .inl hc
  · rw [hcreate]
    refine h.record (h.valid.push key _) (fun k i hk => ?_) hresolve (by rw [Dict.get?_set, if_pos rfl])
      fun i c hc => ?_
    · rw [Dict.get?_set, if_neg, hk]
      rintro rfl
      rw [hnone] at hk
      cases hk
    · rcases Nat.lt_trichotomy i f.clients.made.length with hlt | rfl | hgt
      · rw [List.getElem?_append_left hlt] at hc
        exact .inl hc
      · rw [List.getElem?_append_right (Nat.le_refl _), Nat.sub_self] at hc
        refine .inr ⟨rfl, (Option.some.inj hc).symm, fun g hg heq => ?_⟩
        obtain ⟨_, _, -, hid⟩ := h.known g hg
        exact (heq ▸ h.valid.lt hid).false
      · have hlen : i < (f.clients.made ++ [_]).length := (List.getElem?_eq_some_iff.mp hc).1
        rw [List.length_append, List.length_singleton] at hlen
        omega

theorem inv_creates (rs : List CreateRequest) : Inv (creates rs) := by
  have hall : ∀ (rs : List CreateRequest) {f : Factories}, Inv f → Inv (rs.foldl create f) := by
    intro rs
    induction rs with
    | nil => exact fun hf => hf
    | cons r rs ih => exact fun hf => ih (inv_create hf r)
  exact hall rs inv_init

/-- **Sharing**: whatever is created in whatever order, two creations have the same shared client exactly when their
configurations name the same terminal. -/
theorem shared_iff (rs : List CreateRequest) :
    ∀ g ∈ (creates rs).got, ∀ g' ∈ (creates rs).got,
      (g.2 = g'.2 ↔ TerminalClientConfig.SameTerminal g.1.config g'.1.config) := by
  intro g hg g' hg'
  have hinv := inv_creates rs
  obtain ⟨key, payload, hresolve, hid⟩ := hinv.known g hg
  obtain ⟨key', payload', hresolve', hid'⟩ := hinv.known g' hg'
  rw [← TerminalClientConfig.key_eq_iff hresolve hresolve']
  constructor
  · intro heq
    exact hinv.valid.inj hid (heq ▸ hid')
  · rintro rfl
    exact Option.some.inj (hid.symm.trans hid')

/-- An execution client and a data client with a feed, of one local terminal with two passwords. -/
def sampleCreate (password : String) (feedEnabled : Bool) : CreateRequest where
  config := { terminalAccess := .localPython, localPython := some { login := some 7, password := some password } }
  feedEnabled := feedEnabled

theorem got_sample : (creates [sampleCreate "old" false, sampleCreate "new" true]).got =
    [(sampleCreate "old" false, 0), (sampleCreate "new" true, 0)] := rfl

theorem shared_iff_sample : (0 = 0 ↔ TerminalClientConfig.SameTerminal (sampleCreate "old" false).config
    (sampleCreate "new" true).config) :=
  shared_iff [sampleCreate "old" false, sampleCreate "new" true] (sampleCreate "old" false, 0) (by simp [got_sample])
    (sampleCreate "new" true, 0) (by simp [got_sample])

/-- **The first one decides**: a shared client has the access, the id and the payload of the first creation that got it,
with its password, its shutdown and all of its settings for the expert advisor, and its flag is set exactly when a data
client with a feed got it. -/
theorem client_of_first (rs : List CreateRequest) :
    ∀ id c, (creates rs).clients.made[id]? = some c →
      (∃ pre r post, (creates rs).got = pre ++ (r, id) :: post ∧ (∀ g ∈ pre, g.2 ≠ id) ∧
        c.terminalAccess = r.config.terminalAccess ∧ c.clientId = r.config.clientId ∧
          ∃ key, r.config.resolve = .ok (key, c.mt5Config)) ∧
      (c.liveQuoteFeedEnabled = true ↔ ∃ g ∈ (creates rs).got, g.2 = id ∧ g.1.feedEnabled = true) := by
  intro id c hc
  obtain ⟨hfirst, hlive⟩ := (inv_creates rs).origin id c hc
  exact ⟨hfirst, hlive⟩

/-- The feed of the second creation is known, its password is not. -/
theorem client_of_first_sample :
    (∃ pre r post, (creates [sampleCreate "old" false, sampleCreate "new" true]).got = pre ++ (r, 0) :: post ∧
      (∀ g ∈ pre, g.2 ≠ 0) ∧ .localPython = r.config.terminalAccess ∧ 1 = r.config.clientId ∧
        ∃ key, r.config.resolve = .ok (key, .localPython { login := some 7, password := some "old" } {})) ∧
      (true = true ↔ ∃ g ∈ (creates [sampleCreate "old" false, sampleCreate "new" true]).got,
        g.2 = 0 ∧ g.1.feedEnabled = true) :=
  client_of_first [sampleCreate "old" false, sampleCreate "new" true] 0
    ⟨.localPython, 1, .localPython { login := some 7, password := some "old" } {}, true⟩ rfl

end Factories

end NautilusMt5
