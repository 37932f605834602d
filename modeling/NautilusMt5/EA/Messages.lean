import NautilusMt5.Lib.Separators

/-!
# Messages of the EA (`metatrader5/ea_sockets.py`, `MT5Ext/utils.mqh`)

A message is a command, a subcommand and fields, with `^` between them. `make_message` writes it in Python and
`MakeMessage` in MQL5; `parse_response_message` splits it again and drops empty fields, before it looks for them.

`roundTrips_iff`: a message comes back as it was framed when there is no `^` in its command and subcommand and no field
is empty, and in no other case.
-/

namespace NautilusMt5.EA

/-- A text, as the list of its characters. -/
abbrev Text := List Char

/-! ## Framing -/

/-- `make_message`. -/
def makeMessage (command subCommand : Text) (parameters : List Text) : Text :=
  command ++ '^' :: (subCommand ++ '^' :: ['^'].intercalate parameters)

/-- The loop of `StringJoin` from `i` on. -/
def stringJoinFrom (delimiter : Text) (size : ℕ) : ℕ → List Text → Text → Text
  | _, [], result => result
  | i, s :: arr, result =>
    let result := result ++ s
    stringJoinFrom delimiter size (i + 1) arr (if i < size - 1 then result ++ delimiter else result)

/-- `StringJoin`. -/
def stringJoin (arr : List Text) (delimiter : Text) : Text := stringJoinFrom delimiter arr.length 0 arr []

/-- `MakeMessage` of MQL5. -/
def mqlMakeMessage (command subCommand : Text) (parameters : List Text) : Text :=
  command ++ (['^'] ++ (subCommand ++ (['^'] ++ stringJoin parameters ['^'])))

/-! ## Parsing -/

/-- What `parse_response_message` returns for a message; its other dict is the text of an error. -/
structure ResponseMessage where
  command : Text
  subCommand : Text
  data : List Text
  deriving DecidableEq, Repr

/-- `parse_response_message`. -/
def parseResponseMessage (message : Text) : Except String ResponseMessage :=
  match message.splitOn '^' with
  | command :: subCommand :: field :: fields =>
    let data := (field :: fields).filter (· ≠ [])
    if [] ∈ data then .error "Invalid format. Hidden '^' delimiters detected in data."
    else .ok { command, subCommand, data }
  | _ => .error "Invalid format. Expected at least three parts separated by '^'."

variable {command subCommand message : Text} {fields : List Text}

/-! ## Both sides frame the same message -/

/-- The loop puts the delimiter before every element that it has left but the first. -/
theorem stringJoinFrom_eq (delimiter : Text) (arr : List Text) (i : ℕ) (result : Text) :
    stringJoinFrom delimiter (i + arr.length) i arr result = result ++ delimiter.intercalate arr := by
  induction arr generalizing i result with
  | nil => simp [stringJoinFrom]
  | cons s arr ih =>
    have hsize : i + (s :: arr).length = (i + 1) + arr.length := by
      rw [List.length_cons]
      omega
    rw [stringJoinFrom, hsize, ih]
    cases arr with
    | nil => simp
    | cons t arr =>
      have hlt : i < i + 1 + (t :: arr).length - 1 := by
        rw [List.length_cons]
        omega
      rw [if_pos hlt, List.intercalate_cons_cons]
      simp only [List.append_assoc]

theorem stringJoin_eq (arr : List Text) (delimiter : Text) : stringJoin arr delimiter = delimiter.intercalate arr := by
  have hloop := stringJoinFrom_eq delimiter arr 0 []
  rwa [Nat.zero_add, List.nil_append] at hloop

theorem mqlMakeMessage_eq (command subCommand : Text) (parameters : List Text) :
    mqlMakeMessage command subCommand parameters = makeMessage command subCommand parameters := by
  rw [mqlMakeMessage, stringJoin_eq]
  rfl

/-! ## The parts of a message -/

/-- Nothing empty is left in the data, so that the second check never fails. -/
theorem parseResponseMessage_of_split {field : Text}
    (h : message.splitOn '^' = command :: subCommand :: field :: fields) :
    parseResponseMessage message = .ok ⟨command, subCommand, (field :: fields).filter (· ≠ [])⟩ := by
  have hnone : [] ∉ (field :: fields).filter (· ≠ []) := by
    intro hmem
    simpa using List.of_mem_filter hmem
  rw [parseResponseMessage, h]
  exact if_neg hnone

/-- What is split is the command, the subcommand and the fields. -/
theorem splitOn_makeMessage (command subCommand : Text) (fields : List Text) :
    (makeMessage command subCommand fields).splitOn '^' =
      command.splitOn '^' ++ (subCommand.splitOn '^' ++ (['^'].intercalate fields).splitOn '^') := by
  rw [makeMessage, List.splitOn_append_cons_self, List.splitOn_append_cons_self]

/-- A message has three parts. -/
theorem exists_split_makeMessage (command subCommand : Text) (fields : List Text) :
    ∃ command' subCommand' field' fields',
      (makeMessage command subCommand fields).splitOn '^' = command' :: subCommand' :: field' :: fields' := by
  obtain ⟨c, cs, hc⟩ := List.exists_cons_of_ne_nil (List.splitOn_ne_nil '^' command)
  obtain ⟨s, ss, hs⟩ := List.exists_cons_of_ne_nil (List.splitOn_ne_nil '^' subCommand)
  obtain ⟨f, fs, hf⟩ := List.exists_cons_of_ne_nil (List.splitOn_ne_nil '^' (['^'].intercalate fields))
  rw [splitOn_makeMessage, hc, hs, hf]
  rcases cs with _ | ⟨c', _ | ⟨c'', cs⟩⟩
  · rcases ss with _ | ⟨s', ss⟩
    · exact ⟨c, s, f, fs, rfl⟩
    · exact ⟨c, s, s', _, rfl⟩
  · exact ⟨c, c', s, _, rfl⟩
  · exact ⟨c, c', c'', _, rfl⟩

/-- What a message comes back as when its command and its subcommand have no `^`. -/
theorem parseResponseMessage_makeMessage (hc : '^' ∉ command) (hs : '^' ∉ subCommand) (fields : List Text) :
    parseResponseMessage (makeMessage command subCommand fields) =
      .ok ⟨command, subCommand, ((['^'].intercalate fields).splitOn '^').filter (· ≠ [])⟩ := by
  obtain ⟨f, fs, hf⟩ := List.exists_cons_of_ne_nil (List.splitOn_ne_nil '^' (['^'].intercalate fields))
  rw [hf]
  refine parseResponseMessage_of_split ?_
  rw [splitOn_makeMessage, List.splitOn_eq_singleton hc, List.splitOn_eq_singleton hs, hf]
  rfl

/-! ## The round trip -/

/-- Parsing gives what was framed, or an error. -/
def RoundTrips (message command subCommand : Text) (fields : List Text) : Prop :=
  parseResponseMessage message = .ok ⟨command, subCommand, fields⟩ ∨ ∃ e, parseResponseMessage message = .error e

/-- What a message comes back as when none of its parts has a `^`: without its empty fields. -/
theorem parseResponseMessage_of_plain (hc : '^' ∉ command) (hs : '^' ∉ subCommand) (hne : fields ≠ [])
    (hf : ∀ f ∈ fields, '^' ∉ f) :
    parseResponseMessage (makeMessage command subCommand fields) =
      .ok ⟨command, subCommand, fields.filter (· ≠ [])⟩ := by
  rw [parseResponseMessage_makeMessage hc hs, List.splitOn_intercalate '^' hf hne]

/-- Only what has no `^` comes back as the command and the subcommand. -/
theorem not_mem_of_roundTrips (h : RoundTrips (makeMessage command subCommand fields) command subCommand fields) :
    '^' ∉ command ∧ '^' ∉ subCommand := by
  obtain ⟨c, s, field, rest, hsplit⟩ := exists_split_makeMessage command subCommand fields
  have hparse := parseResponseMessage_of_split hsplit
  rcases h with h | ⟨e, h⟩
  · rw [hparse] at h
    obtain ⟨rfl, rfl, -⟩ := ResponseMessage.mk.inj (Except.ok.inj h)
    have hcommand : '^' ∉ c := Separators.not_mem_of_mem_splitOn (hsplit ▸ List.mem_cons_self)
    refine ⟨hcommand, ?_⟩
    -- without a separator in the command, the second part is the first one of the subcommand
    rw [splitOn_makeMessage, List.splitOn_eq_singleton hcommand] at hsplit
    obtain ⟨first, others, hfirst⟩ := List.exists_cons_of_ne_nil (List.splitOn_ne_nil '^' s)
    rw [hfirst] at hsplit
    obtain ⟨-, hrest⟩ := List.cons.inj hsplit
    have hsub : first = s := (List.cons.inj hrest).1
    have hpart : first ∈ s.splitOn '^' := hfirst ▸ List.mem_cons_self
    exact hsub ▸ Separators.not_mem_of_mem_splitOn hpart
  · rw [hparse] at h
    cases h

theorem roundTrips_makeMessage_iff (hne : fields ≠ []) (hf : ∀ f ∈ fields, '^' ∉ f) :
    RoundTrips (makeMessage command subCommand fields) command subCommand fields ↔
      '^' ∉ command ∧ '^' ∉ subCommand ∧ ∀ f ∈ fields, f ≠ [] := by
  constructor
  · intro h
    obtain ⟨hc, hs⟩ := not_mem_of_roundTrips h
    refine ⟨hc, hs, ?_⟩
    rw [RoundTrips, parseResponseMessage_of_plain hc hs hne hf] at h
    rcases h with h | ⟨e, h⟩
    · have hfilter : fields.filter (· ≠ []) = fields := (ResponseMessage.mk.inj (Except.ok.inj h)).2.2
      intro f hmem
      simpa using List.filter_eq_self.mp hfilter f hmem
    · cases h
  · rintro ⟨hc, hs, hfull⟩
    have hfilter : fields.filter (· ≠ []) = fields := List.filter_eq_self.mpr fun f hmem => by simpa using hfull f hmem
    rw [RoundTrips, parseResponseMessage_of_plain hc hs hne hf, hfilter]
    exact .inl rfl

/-- A message of either side comes back as it was framed exactly when no part of it hides a separator. -/
theorem roundTrips_iff (command subCommand : Text) (fields : List Text) (hne : fields ≠ [])
    (hf : ∀ f ∈ fields, '^' ∉ f) :
    (RoundTrips (makeMessage command subCommand fields) command subCommand fields ↔
      '^' ∉ command ∧ '^' ∉ subCommand ∧ ∀ f ∈ fields, f ≠ []) ∧
    (RoundTrips (mqlMakeMessage command subCommand fields) command subCommand fields ↔
      '^' ∉ command ∧ '^' ∉ subCommand ∧ ∀ f ∈ fields, f ≠ []) := by
  rw [mqlMakeMessage_eq]
  exact ⟨roundTrips_makeMessage_iff hne hf, roundTrips_makeMessage_iff hne hf⟩

/-- A static account, of which the name and the login are given. -/
theorem roundTrips_iff_account :
    RoundTrips (mqlMakeMessage ['F', '0', '0', '1'] ['1', '0'] [['A', 'n', 'n'], ['7', '0', '1']])
      ['F', '0', '0', '1'] ['1', '0'] [['A', 'n', 'n'], ['7', '0', '1']] :=
  (roundTrips_iff _ _ _ (by decide) (by decide)).2.mpr (by decide)

/-- An account without a name: the login comes back in the place of the name. -/
theorem shifted_without_name :
    let fields : List Text := [[], ['7', '0', '1'], ['E', 'U', 'R']]
    (∀ f ∈ fields, '^' ∉ f) ∧
      parseResponseMessage (mqlMakeMessage ['F', '0', '0', '1'] ['1', '0'] fields) =
        .ok ⟨['F', '0', '0', '1'], ['1', '0'], [['7', '0', '1'], ['E', 'U', 'R']]⟩ ∧
      ¬ RoundTrips (mqlMakeMessage ['F', '0', '0', '1'] ['1', '0'] fields) ['F', '0', '0', '1'] ['1', '0'] fields := by
  have hparse : parseResponseMessage
      (mqlMakeMessage ['F', '0', '0', '1'] ['1', '0'] [[], ['7', '0', '1'], ['E', 'U', 'R']]) =
        .ok ⟨['F', '0', '0', '1'], ['1', '0'], [['7', '0', '1'], ['E', 'U', 'R']]⟩ := by
    decide
  refine ⟨by decide, hparse, ?_⟩
  rw [RoundTrips, hparse]
  rintro (h | ⟨e, h⟩)
  · exact absurd h (by decide)
  · cases h

end NautilusMt5.EA
