import NautilusMt5.Service.TickExport

/-!
# What the tick export loop sends

The cursor is a millisecond, so it stands for a position in the history only while no tick is left out at it. A step
is clean (`StepClean`) when a seed covers the history it finds, a batch that goes out ends at a millisecond boundary
and no tick arrives at a millisecond the cursor has passed. Along clean steps the batches sent are exactly the ticks
up to the cursor (`Exact`); the first step that is not clean loses a tick for good (`Lossy`). Hence a drained run is
complete iff its steps are clean (`export_complete_iff`).
-/

namespace NautilusMt5

open SortedLog Runs

variable {P : Type}

/-! ## Conditions on a step -/

/-- A poll that seeds the cursor covers the history it finds. -/
def ExportWorld.SeedCovers (w : ExportWorld P) : ExportEvent P → Prop
  | .poll env => w.seeds = true → ∀ t ∈ w.history, t.timeMsc ≤ (seedIfUnset w.sym env).lastMsc
  | _ => True

/-- A step that leaves no tick behind the cursor. -/
def ExportWorld.StepClean (inpBatchSize : Nat) (w : ExportWorld P) : ExportEvent P → Prop
  | .arrive t => w.seededAt.isSome → w.sym.lastMsc < t.timeMsc
  | .poll env => w.SeedCovers (.poll env) ∧ (w.sym.active = true → env.copyOk = true → env.sendOk = true →
      Boundary MqlTick.timeMsc inpBatchSize (after MqlTick.timeMsc (seedIfUnset w.sym env).lastMsc w.history))
  | .setActive _ => True

instance (w : ExportWorld P) : (e : ExportEvent P) → Decidable (w.SeedCovers e)
  | .poll _ => inferInstanceAs (Decidable (_ → ∀ t ∈ w.history, _))
  | .arrive _ | .setActive _ => .isTrue trivial

instance (b : Nat) (w : ExportWorld P) : (e : ExportEvent P) → Decidable (w.StepClean b e)
  | .arrive _ => inferInstanceAs (Decidable (_ → _))
  | .poll env => inferInstanceAs (Decidable (w.SeedCovers (.poll env) ∧ (_ → _ → _ → Boundary _ _ _)))
  | .setActive _ => .isTrue trivial

theorem ExportWorld.StepClean.seedCovers {b : Nat} {w : ExportWorld P} {e : ExportEvent P} (h : w.StepClean b e) :
    w.SeedCovers e := by
  cases e with
  | poll env => exact h.1
  | arrive t => trivial
  | setActive b => trivial

/-! ## The invariant -/

/-- The history is sorted, the last snapshot is not past the cursor, and the cursor covers what came before it. -/
structure ExportWorld.Inv (w : ExportWorld P) : Prop where
  sorted : Sorted MqlTick.timeMsc w.history
  lastSent_le : ∀ t, w.sym.lastSent = some t → t.timeMsc ≤ w.sym.lastMsc
  unseeded : w.seededAt = none → w.sym.lastMsc = 0 ∧ w.sent = []
  seeded : ∀ n, w.seededAt = some n → 0 < w.sym.lastMsc ∧ n ≤ w.history.length ∧
    ∀ t ∈ w.history.take n, t.timeMsc ≤ w.sym.lastMsc

/-- What went out is what the cursor has passed. -/
def ExportWorld.Exact (w : ExportWorld P) : Prop :=
  w.sent.flatten = upto MqlTick.timeMsc w.sym.lastMsc w.toExport

/-- The cursor has passed more than what went out. -/
def ExportWorld.Lossy (w : ExportWorld P) : Prop :=
  w.sent.flatten.length < (upto MqlTick.timeMsc w.sym.lastMsc w.toExport).length

theorem ExportWorld.Lossy.seededAt {w : ExportWorld P} (h : w.Lossy) : ∃ n, w.seededAt = some n := by
  cases hs : w.seededAt with
  | some n => exact ⟨n, rfl⟩
  | none => simp [Lossy, toExport, hs] at h

theorem ExportWorld.Inv.init (symbol : String) {history : List (MqlTick P)} (h : Sorted MqlTick.timeMsc history) :
    (ExportWorld.init symbol history).Inv ∧ (ExportWorld.init symbol history).Exact :=
  ⟨⟨h, by simp [ExportWorld.init], by simp [ExportWorld.init], by simp [ExportWorld.init]⟩,
    by simp [ExportWorld.Exact, ExportWorld.init, ExportWorld.toExport]⟩

/-! ## The parts of a poll -/

/-- The world after the seeding of a poll. -/
def ExportWorld.seed (w : ExportWorld P) (env : PollEnv P) : ExportWorld P :=
  { w with sym := seedIfUnset w.sym env, seededAt := w.seededBy env }

/-- The world after a batch went out. -/
def ExportWorld.send (w : ExportWorld P) (batch : List (MqlTick P)) (cursor : MqlTick P) : ExportWorld P :=
  { w with sym := { w.sym with lastMsc := cursor.timeMsc, lastSent := some cursor }, sent := w.sent ++ [batch] }

theorem copyTicks_eq (history : List (MqlTick P)) (c b : Nat) :
    copyTicks history (c + 1) b = (after MqlTick.timeMsc c history).take b := by
  simp only [copyTicks, after, Nat.succ_le_iff]

theorem seedIfUnset_lastSent_le {s : NT5SymbolState P} (hs : ∀ t, s.lastSent = some t → t.timeMsc ≤ s.lastMsc)
    (env : PollEnv P) (t : MqlTick P) (ht : (seedIfUnset s env).lastSent = some t) :
    t.timeMsc ≤ (seedIfUnset s env).lastMsc := by
  unfold seedIfUnset nt5SeedCursorFromMarket at *
  split at ht
  · cases hl : env.latest with
    | none => simp [hl] at ht
    | some l => simp_all
  · simp_all

/-! ## Seeding and sending -/

section Seed

variable {w : ExportWorld P} {env : PollEnv P}

/-- A cursor that is set stays where it is. -/
theorem seed_of_set (h0 : w.sym.lastMsc ≠ 0) : w.seed env = w := by
  simp [ExportWorld.seed, ExportWorld.seededBy, ExportWorld.seeds, seedIfUnset, h0]

theorem seededAt_seed_of_unset (ha : w.sym.active = true) (h0 : w.sym.lastMsc = 0) :
    (w.seed env).seededAt = if (seedIfUnset w.sym env).lastMsc = 0 then none else some w.history.length := by
  simp [ExportWorld.seed, ExportWorld.seededBy, ExportWorld.seeds, ha, h0]

/-- Before the cursor is set nothing was sent. -/
theorem ExportWorld.Inv.unset (hi : w.Inv) (h0 : w.sym.lastMsc = 0) : w.seededAt = none ∧ w.sent = [] := by
  have hnone : w.seededAt = none := by
    cases hs : w.seededAt with
    | none => rfl
    | some n => have := (hi.seeded n hs).1; omega
  exact ⟨hnone, (hi.unseeded hnone).2⟩

theorem ExportWorld.Inv.seed (hi : w.Inv) (ha : w.sym.active = true) (h0 : w.sym.lastMsc = 0)
    (hc : w.SeedCovers (.poll env)) : (w.seed env).Inv := by
  have hsd : w.seeds = true := by simp [ExportWorld.seeds, ha, h0]
  have hat := @seededAt_seed_of_unset P w env ha h0
  refine ⟨hi.sorted, seedIfUnset_lastSent_le hi.lastSent_le env, ?_, ?_⟩
  · intro hn
    rw [hat] at hn
    split at hn
    · rename_i hz; exact ⟨hz, (hi.unset h0).2⟩
    · cases hn
  · intro n hn
    rw [hat] at hn
    split at hn
    · cases hn
    · rename_i hz
      cases hn
      refine ⟨Nat.pos_of_ne_zero hz, Nat.le_refl _, fun t ht => hc hsd t ?_⟩
      simpa [ExportWorld.seed] using ht

/-- A seeding that covers the history keeps the invariant, and starts with nothing to send. -/
theorem seed_inv (hi : w.Inv) (ha : w.sym.active = true) (hc : w.SeedCovers (.poll env)) :
    (w.seed env).Inv ∧ (w.Exact → (w.seed env).Exact) ∧ (w.Lossy → (w.seed env).Lossy) := by
  by_cases h0 : w.sym.lastMsc = 0
  · obtain ⟨hnone, hsent⟩ := hi.unset h0
    refine ⟨hi.seed ha h0 hc, fun _ => ?_, fun hl => ?_⟩
    · have hto : (w.seed env).toExport = [] := by
        unfold ExportWorld.toExport
        rw [seededAt_seed_of_unset ha h0]
        split <;> simp_all [ExportWorld.seed]
      show w.sent.flatten = upto MqlTick.timeMsc _ (w.seed env).toExport
      rw [hto, hsent]; rfl
    · obtain ⟨n, hn⟩ := hl.seededAt
      rw [hnone] at hn; cases hn
  · rw [seed_of_set h0]
    exact ⟨hi, id, id⟩

end Seed

/-- The unread part of the history is the unread part of what is to be exported. -/
theorem ExportWorld.Inv.after_toExport {w : ExportWorld P} (hi : w.Inv) {n : Nat} (hn : w.seededAt = some n) :
    after MqlTick.timeMsc w.sym.lastMsc w.history = after MqlTick.timeMsc w.sym.lastMsc w.toExport := by
  have hto : w.toExport = w.history.drop n := by simp [ExportWorld.toExport, hn]
  conv => lhs; rw [← List.take_append_drop n w.history]
  rw [after_append, after_eq_nil.2 (hi.seeded n hn).2.2, List.nil_append, hto]

section Send

variable {w : ExportWorld P} {b n : Nat} {z : MqlTick P}

/-- A batch ends past the cursor. -/
theorem lastMsc_lt_of_batch (hz : ((after MqlTick.timeMsc w.sym.lastMsc w.history).take b).getLast? = some z) :
    w.sym.lastMsc < z.timeMsc :=
  (mem_after.1 (List.mem_of_mem_take (List.mem_of_getLast? hz))).2

/-- The cursor passes the old part, the batch, and what is left out at its last millisecond. -/
theorem ExportWorld.Inv.upto_batch (hi : w.Inv) (hn : w.seededAt = some n)
    (hz : ((after MqlTick.timeMsc w.sym.lastMsc w.history).take b).getLast? = some z) :
    upto MqlTick.timeMsc z.timeMsc w.toExport = upto MqlTick.timeMsc w.sym.lastMsc w.toExport ++
      ((after MqlTick.timeMsc w.sym.lastMsc w.history).take b ++
        upto MqlTick.timeMsc z.timeMsc ((after MqlTick.timeMsc w.sym.lastMsc w.history).drop b)) := by
  have hto : w.toExport = w.history.drop n := by simp [ExportWorld.toExport, hn]
  have hsorted : Sorted MqlTick.timeMsc w.toExport := by rw [hto]; exact hi.sorted.sublist (List.drop_sublist n _)
  rw [hsorted.upto_of_le (Nat.le_of_lt (lastMsc_lt_of_batch hz)), ← hi.after_toExport hn,
    (hi.sorted.after _).upto_batch hz]

theorem ExportWorld.Inv.send (hi : w.Inv) (hn : w.seededAt = some n)
    (hz : ((after MqlTick.timeMsc w.sym.lastMsc w.history).take b).getLast? = some z) (batch : List (MqlTick P)) :
    (w.send batch z).Inv := by
  have hlt := lastMsc_lt_of_batch hz
  refine ⟨hi.sorted, ?_, ?_, ?_⟩
  · intro t ht; cases ht; exact Nat.le_refl _
  · intro h; rw [show w.seededAt = none from h] at hn; cases hn
  · intro m hm
    obtain ⟨h1, h2, h3⟩ := hi.seeded m hm
    exact ⟨by show 0 < z.timeMsc; omega, h2, fun t ht => by show t.timeMsc ≤ z.timeMsc; have := h3 t ht; omega⟩

/-- A batch keeps the invariant. It is exactly what the cursor passes when it ends at a boundary; otherwise the ticks
left out at its last millisecond are lost. -/
theorem send_inv (hi : w.Inv)
    (hsome : w.seededAt = none → after MqlTick.timeMsc w.sym.lastMsc w.history = [])
    (hz : ((after MqlTick.timeMsc w.sym.lastMsc w.history).take b).getLast? = some z) :
    (w.send ((after MqlTick.timeMsc w.sym.lastMsc w.history).take b) z).Inv ∧
    (w.Exact → Boundary MqlTick.timeMsc b (after MqlTick.timeMsc w.sym.lastMsc w.history) →
      (w.send ((after MqlTick.timeMsc w.sym.lastMsc w.history).take b) z).Exact) ∧
    (w.Exact → ¬Boundary MqlTick.timeMsc b (after MqlTick.timeMsc w.sym.lastMsc w.history) →
      (w.send ((after MqlTick.timeMsc w.sym.lastMsc w.history).take b) z).Lossy) ∧
    (w.Lossy → (w.send ((after MqlTick.timeMsc w.sym.lastMsc w.history).take b) z).Lossy) := by
  obtain ⟨n, hn⟩ : ∃ n, w.seededAt = some n := by
    cases hs : w.seededAt with
    | some n => exact ⟨n, rfl⟩
    | none => rw [hsome hs, List.take_nil] at hz; cases hz
  have hpass := hi.upto_batch hn hz
  have hiff := (hi.sorted.after w.sym.lastMsc).boundary_iff hz
  refine ⟨hi.send hn hz _, ?_, ?_, ?_⟩
  · intro he hb
    show (w.sent ++ [_]).flatten = upto MqlTick.timeMsc z.timeMsc w.toExport
    rw [hpass, hiff.1 hb, List.append_nil, ← he]
    simp
  · intro he hb
    show (w.sent ++ [_]).flatten.length < (upto MqlTick.timeMsc z.timeMsc w.toExport).length
    have hpos := List.length_pos_of_ne_nil (fun h => hb (hiff.2 h))
    rw [hpass, ← he]
    simp only [List.flatten_append, List.flatten_cons, List.flatten_nil, List.append_nil, List.length_append]
    omega
  · intro hl
    show (w.sent ++ [_]).flatten.length < (upto MqlTick.timeMsc z.timeMsc w.toExport).length
    unfold ExportWorld.Lossy at hl
    rw [hpass]
    simp only [List.flatten_append, List.flatten_cons, List.flatten_nil, List.append_nil, List.length_append]
    omega

end Send

theorem ExportWorld.Inv.push {w : ExportWorld P} {t : MqlTick P} (hi : w.Inv)
    (hle : ∀ u ∈ w.history, u.timeMsc ≤ t.timeMsc) : (w.push t).Inv := by
  have hsorted : Sorted MqlTick.timeMsc (w.history ++ [t]) :=
    List.pairwise_append.2 ⟨hi.sorted, List.pairwise_singleton _ t, fun u hu v hv => by
      rw [List.mem_singleton.1 hv]; exact hle u hu⟩
  refine ⟨hsorted, hi.lastSent_le, hi.unseeded, fun n hn => ?_⟩
  obtain ⟨h1, h2, h3⟩ := hi.seeded n hn
  refine ⟨h1, by simp [ExportWorld.push]; omega, fun u hu => h3 u ?_⟩
  simpa [ExportWorld.push, List.take_append_of_le_length h2] using hu

/-- An arrival past the cursor is still to be sent; one at a millisecond the cursor has passed is lost. -/
theorem arrive_inv {b : Nat} {w : ExportWorld P} {t : MqlTick P} (hi : w.Inv)
    (hle : ∀ u ∈ w.history, u.timeMsc ≤ t.timeMsc) :
    (w.push t).Inv ∧
    (w.Exact → w.StepClean b (.arrive t) → (w.push t).Exact) ∧
    (w.Exact → ¬w.StepClean b (.arrive t) → (w.push t).Lossy) ∧
    (w.Lossy → (w.push t).Lossy) := by
  have hinv := hi.push hle
  cases hs : w.seededAt with
  | none =>
    have hto : ∀ m : ExportWorld P, m.seededAt = none → m.toExport = [] := by
      intro m hm; simp [ExportWorld.toExport, hm]
    refine ⟨hinv, fun he _ => ?_, fun _ hn => absurd (fun h => by rw [hs] at h; cases h) hn, fun hl => ?_⟩
    · show w.sent.flatten = upto MqlTick.timeMsc w.sym.lastMsc _
      rw [hto (w.push t) hs, he, hto w hs]
    · obtain ⟨n, hn⟩ := hl.seededAt
      rw [hs] at hn; cases hn
  | some n =>
    have hto : (w.push t).toExport = w.toExport ++ [t] := by
      simp [ExportWorld.toExport, ExportWorld.push, hs, List.drop_append_of_le_length (hi.seeded n hs).2.1]
    have hup : upto MqlTick.timeMsc w.sym.lastMsc (w.toExport ++ [t]) = upto MqlTick.timeMsc w.sym.lastMsc w.toExport ++
        if t.timeMsc ≤ w.sym.lastMsc then [t] else [] := by rw [upto_append, upto_singleton]
    refine ⟨hinv, fun he hc => ?_, fun he hn => ?_, fun hl => ?_⟩
    · have hlt : ¬t.timeMsc ≤ w.sym.lastMsc := Nat.not_le.2 (hc (by rw [hs]; rfl))
      show w.sent.flatten = upto MqlTick.timeMsc w.sym.lastMsc _
      rw [hto, hup, if_neg hlt, List.append_nil, he]
    · have hge : t.timeMsc ≤ w.sym.lastMsc := Nat.not_lt.1 (fun h => hn (fun _ => h))
      show w.sent.flatten.length < (upto MqlTick.timeMsc w.sym.lastMsc _).length
      rw [hto, hup, if_pos hge, he]
      simp
    · show w.sent.flatten.length < (upto MqlTick.timeMsc w.sym.lastMsc _).length
      have := show w.sent.flatten.length < _ from hl
      rw [hto, hup, List.length_append]
      omega

/-- A drained cursor has passed everything that is to be exported. -/
theorem drained_upto {b : Nat} (hb : 1 ≤ b) {w : ExportWorld P} (hd : w.Drained b) :
    upto MqlTick.timeMsc w.sym.lastMsc w.toExport = w.toExport := by
  have hnil : after MqlTick.timeMsc w.sym.lastMsc w.history = [] := by
    unfold ExportWorld.Drained at hd
    rw [copyTicks_eq, List.take_eq_nil_iff] at hd
    rcases hd with hd | hd
    · omega
    · exact hd
  refine upto_eq_self.2 (fun t ht => after_eq_nil.1 hnil t ?_)
  unfold ExportWorld.toExport at ht
  cases hs : w.seededAt with
  | none => rw [hs] at ht; cases ht
  | some n => rw [hs] at ht; exact List.mem_of_mem_drop ht

/-! ## The poll -/

variable [BEq P]

/-- Past the cursor no tick is the last snapshot, so the filter drops nothing. -/
theorem nt5FilterNewTicks_copyTicks {s : NT5SymbolState P} (hs : ∀ t, s.lastSent = some t → t.timeMsc ≤ s.lastMsc)
    (history : List (MqlTick P)) (b : Nat) :
    nt5FilterNewTicks s (copyTicks history (s.lastMsc + 1) b) = copyTicks history (s.lastMsc + 1) b := by
  unfold nt5FilterNewTicks
  cases hl : s.lastSent with
  | none => rfl
  | some last =>
    rw [copyTicks_eq]
    cases hc : (after MqlTick.timeMsc s.lastMsc history).take b with
    | nil => rfl
    | cons t ts =>
      have ht : t ∈ after MqlTick.timeMsc s.lastMsc history :=
        List.mem_of_mem_take (by rw [hc]; exact List.mem_cons_self)
      have hne : (t.timeMsc == last.timeMsc) = false := by
        have := (mem_after.1 ht).2
        have := hs last hl
        simp; omega
      simp [nt5TickSameSnapshot, hne]

/-- **What a poll does**: nothing, a seeding, or a seeding and a batch of the oldest ticks past the cursor. -/
theorem poll_cases (b : Nat) {w : ExportWorld P} (hw : ∀ t, w.sym.lastSent = some t → t.timeMsc ≤ w.sym.lastMsc)
    (env : PollEnv P) :
    (w.sym.active = false ∧ w.poll b env = w) ∨
    (w.sym.active = true ∧ w.poll b env = w.seed env ∧ (env.copyOk = true → env.sendOk = true →
      (after MqlTick.timeMsc (seedIfUnset w.sym env).lastMsc w.history).take b = [])) ∨
    (w.sym.active = true ∧ env.copyOk = true ∧ env.sendOk = true ∧ ∃ z,
      ((after MqlTick.timeMsc (seedIfUnset w.sym env).lastMsc w.history).take b).getLast? = some z ∧
      w.poll b env =
        (w.seed env).send ((after MqlTick.timeMsc (seedIfUnset w.sym env).lastMsc w.history).take b) z) := by
  have hf := nt5FilterNewTicks_copyTicks (seedIfUnset_lastSent_le hw env) w.history b
  rw [copyTicks_eq] at hf
  cases ha : w.sym.active with
  | false =>
    refine Or.inl ⟨rfl, ?_⟩
    simp [ExportWorld.poll, nt5ExportSymbolTicks, ExportWorld.seededBy, ExportWorld.seeds, ha]
  | true =>
    apply Or.inr
    cases hc : env.copyOk with
    | false => exact Or.inl ⟨rfl, by simp [ExportWorld.poll, nt5ExportSymbolTicks, ExportWorld.seed, ha, hc], by simp⟩
    | true =>
      cases hz : ((after MqlTick.timeMsc (seedIfUnset w.sym env).lastMsc w.history).take b).getLast? with
      | none =>
        refine Or.inl ⟨rfl, ?_, fun _ _ => List.getLast?_eq_none_iff.1 hz⟩
        simp [ExportWorld.poll, nt5ExportSymbolTicks, ExportWorld.seed, ha, hc, copyTicks_eq, hf, hz]
      | some z =>
        cases hs : env.sendOk with
        | false =>
          refine Or.inl ⟨rfl, ?_, by simp⟩
          simp [ExportWorld.poll, nt5ExportSymbolTicks, ExportWorld.seed, ha, hc, hs, copyTicks_eq, hf, hz]
        | true =>
          refine Or.inr ⟨rfl, rfl, rfl, z, rfl, ?_⟩
          have hne : (after MqlTick.timeMsc (seedIfUnset w.sym env).lastMsc w.history).take b ≠ [] := by
            intro h; rw [h] at hz; cases hz
          simp [ExportWorld.poll, nt5ExportSymbolTicks, ExportWorld.seed, ExportWorld.send, ha, hc, hs, copyTicks_eq,
            hf, hz, hne]

/-- One poll that seeds soundly: it keeps the invariant and a loss; it stays exact iff it is clean. -/
theorem poll_inv {b : Nat} {w : ExportWorld P} {env : PollEnv P} (hi : w.Inv) (hc : w.SeedCovers (.poll env)) :
    (w.poll b env).Inv ∧
    (w.Exact → w.StepClean b (.poll env) → (w.poll b env).Exact) ∧
    (w.Exact → ¬w.StepClean b (.poll env) → (w.poll b env).Lossy) ∧
    (w.Lossy → (w.poll b env).Lossy) := by
  rcases poll_cases b hi.lastSent_le env with ⟨ha, hp⟩ | ⟨ha, hp, hb⟩ | ⟨ha, hcp, hs, z, hz, hp⟩
  · rw [hp]
    exact ⟨hi, fun he _ => he, fun _ hn => absurd ⟨hc, fun h => by rw [ha] at h; cases h⟩ hn, id⟩
  · obtain ⟨h1, h2, h3⟩ := seed_inv hi ha hc
    rw [hp]
    -- an empty batch ends at a boundary
    refine ⟨h1, fun he _ => h2 he, fun _ hn => absurd ⟨hc, fun _ hcp hs => ?_⟩ hn, h3⟩
    unfold Boundary
    rw [hb hcp hs]; simp
  · obtain ⟨h1, h2, h3⟩ := seed_inv hi ha hc
    have hsome : (w.seed env).seededAt = none →
        after MqlTick.timeMsc (w.seed env).sym.lastMsc (w.seed env).history = [] := by
      intro hn
      have h0 := (h1.unseeded hn).1
      by_cases hw : w.sym.lastMsc = 0
      · exact after_eq_nil.2 (hc (by simp [ExportWorld.seeds, ha, hw]))
      · exact absurd h0 (by simp [ExportWorld.seed, seedIfUnset, hw])
    obtain ⟨k1, k2, k3, k4⟩ := send_inv h1 hsome hz
    rw [hp]
    exact ⟨k1, fun he hcl => k2 (h2 he) (hcl.2 ha hcp hs),
      fun he hn => k3 (h2 he) (fun hb => hn ⟨hc, fun _ _ _ => hb⟩), fun hl => k4 (h3 hl)⟩

/-- **One step**: a sound seeding keeps the invariant; a clean step keeps the export exact, any other step loses a
tick, and a lost tick stays lost. -/
theorem step_inv {b : Nat} {w w' : ExportWorld P} {e : ExportEvent P} (hi : w.Inv) (hc : w.SeedCovers e)
    (h : w.step b e = some w') :
    w'.Inv ∧ (w.Exact → w.StepClean b e → w'.Exact) ∧ (w.Exact → ¬w.StepClean b e → w'.Lossy) ∧
    (w.Lossy → w'.Lossy) := by
  cases e with
  | poll env => cases h; exact poll_inv hi hc
  | setActive a => cases h; exact ⟨⟨hi.1, hi.2, hi.3, hi.4⟩, fun he _ => he, fun _ hn => absurd trivial hn, id⟩
  | arrive t =>
    simp only [ExportWorld.step, ExportWorld.arrive] at h
    split at h
    · rename_i hle
      cases h
      exact arrive_inv hi hle
    · cases h

/-! ## Runs -/

/-- Clean steps keep the export exact. -/
theorem run_exact {b : Nat} {w w' : ExportWorld P} {es : List (ExportEvent P)} (hi : w.Inv) (he : w.Exact)
    (hc : Every (ExportWorld.step b) (ExportWorld.StepClean b) w es) (h : run (ExportWorld.step b) w es = some w') :
    w'.Inv ∧ w'.Exact :=
  run_inv_every (I := fun w => w.Inv ∧ w.Exact)
    (fun _ _ _ hw hcl hs =>
      have := step_inv hw.1 hcl.seedCovers hs
      ⟨this.1, this.2.1 hw.2 hcl⟩) ⟨hi, he⟩ hc h

/-- A loss, or a step that is not clean, leaves every later state with a loss. -/
theorem run_lossy {b : Nat} {w w' : ExportWorld P} {es : List (ExportEvent P)} (hi : w.Inv)
    (hc : Every (ExportWorld.step b) ExportWorld.SeedCovers w es)
    (hl : w.Lossy ∨ w.Exact ∧ ¬Every (ExportWorld.step b) (ExportWorld.StepClean b) w es)
    (h : run (ExportWorld.step b) w es = some w') : w'.Inv ∧ w'.Lossy := by
  induction es generalizing w with
  | nil =>
    cases h
    rcases hl with hl | ⟨_, hn⟩
    · exact ⟨hi, hl⟩
    · exact absurd trivial hn
  | cons e es ih =>
    obtain ⟨t, ht, hr⟩ := run_cons h
    obtain ⟨h1, h2, h3, h4⟩ := step_inv hi hc.1 ht
    refine ih h1 (hc.2 t ht) ?_ hr
    rcases hl with hl | ⟨he, hn⟩
    · exact Or.inl (h4 hl)
    · by_cases hcl : w.StepClean b e
      · refine Or.inr ⟨h2 he hcl, fun hall => hn ⟨hcl, fun s' hs' => ?_⟩⟩
        rw [ht] at hs'; cases hs'; exact hall
      · exact Or.inl (h3 he hcl)

/-- **Drained runs are complete iff their steps are clean**: the seeds cover the history they find and every tick that
arrived later went out once and in order, iff no step left a tick behind the cursor. -/
theorem export_complete_iff {b : Nat} (hb : 1 ≤ b) (symbol : String) {history : List (MqlTick P)}
    (hh : Sorted MqlTick.timeMsc history) {es : List (ExportEvent P)} {w : ExportWorld P}
    (h : run (ExportWorld.step b) (.init symbol history) es = some w) (hd : w.Drained b) :
    (Every (ExportWorld.step b) ExportWorld.SeedCovers (.init symbol history) es ∧ w.Complete) ↔
      Every (ExportWorld.step b) (ExportWorld.StepClean b) (.init symbol history) es := by
  obtain ⟨hi, he⟩ := ExportWorld.Inv.init symbol hh
  constructor
  · rintro ⟨hc, hcomp⟩
    by_contra hn
    have hl := (run_lossy hi hc (Or.inr ⟨he, hn⟩) h).2
    unfold ExportWorld.Lossy at hl
    rw [drained_upto hb hd, ← show w.sent.flatten = w.toExport from hcomp] at hl
    exact Nat.lt_irrefl _ hl
  · intro hcl
    refine ⟨hcl.mono (fun _ _ hs => hs.seedCovers), ?_⟩
    have := (run_exact hi he hcl h).2
    unfold ExportWorld.Exact at this
    rw [drained_upto hb hd] at this
    exact this

/-- Two polls that are seeded soundly and send one tick each. -/
theorem export_complete_iff_two_polls :
    (Every (ExportWorld.step 1) ExportWorld.SeedCovers (.init "EURUSD" [⟨1000, 1, 2, 0, 0, 6⟩])
        [.poll ⟨some ⟨1000, 1, 2, 0, 0, 6⟩, 1, true, true⟩, .arrive ⟨1001, 3, 4, 0, 0, 6⟩,
          .poll ⟨some ⟨1001, 3, 4, 0, 0, 6⟩, 1, true, true⟩] ∧
      ExportWorld.Complete
        (⟨[⟨1000, 1, 2, 0, 0, 6⟩, ⟨1001, 3, 4, 0, 0, 6⟩], ⟨"EURUSD", 1001, true, some ⟨1001, 3, 4, 0, 0, 6⟩⟩,
          [[⟨1001, 3, 4, 0, 0, 6⟩]], some 1⟩ : ExportWorld Nat)) ↔
    Every (ExportWorld.step 1) (ExportWorld.StepClean 1) (.init "EURUSD" [⟨1000, 1, 2, 0, 0, 6⟩])
      [.poll ⟨some ⟨1000, 1, 2, 0, 0, 6⟩, 1, true, true⟩, .arrive ⟨1001, 3, 4, 0, 0, 6⟩,
        .poll ⟨some ⟨1001, 3, 4, 0, 0, 6⟩, 1, true, true⟩] :=
  export_complete_iff (Nat.le_refl 1) "EURUSD" (List.pairwise_singleton _ _) (by decide)
    (by decide)

/-- With the default batch size, a tick that arrives in the millisecond of a batch that is already out is never sent:
the polls drain the history and the tick is missing. -/
theorem export_loses_late_tick :
    ¬∀ (es : List (ExportEvent Nat)) (w : ExportWorld Nat),
      run (ExportWorld.step 100) (.init "EURUSD" [⟨1000, 1, 2, 0, 0, 6⟩]) es = some w →
      Every (ExportWorld.step 100) ExportWorld.SeedCovers (.init "EURUSD" [⟨1000, 1, 2, 0, 0, 6⟩]) es →
      w.Drained 100 → w.Complete := by
  intro h
  have := h
    [.poll ⟨some ⟨1000, 1, 2, 0, 0, 6⟩, 1, true, true⟩, .arrive ⟨1001, 3, 4, 0, 0, 6⟩,
      .poll ⟨some ⟨1001, 3, 4, 0, 0, 6⟩, 1, true, true⟩, .arrive ⟨1001, 5, 6, 0, 0, 6⟩,
      .poll ⟨some ⟨1001, 5, 6, 0, 0, 6⟩, 1, true, true⟩]
    ⟨[⟨1000, 1, 2, 0, 0, 6⟩, ⟨1001, 3, 4, 0, 0, 6⟩, ⟨1001, 5, 6, 0, 0, 6⟩],
      ⟨"EURUSD", 1001, true, some ⟨1001, 3, 4, 0, 0, 6⟩⟩, [[⟨1001, 3, 4, 0, 0, 6⟩]], some 1⟩
    (by decide) (by decide) (by decide)
  exact absurd this (by decide)

end NautilusMt5
