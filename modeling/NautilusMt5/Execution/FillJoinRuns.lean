import NautilusMt5.Execution.FillJoin

/-!
# Runs of executions and commissions

The handler has to run once for every execution whose two parts arrived (`JoinedOnce`). It does exactly in the runs in
which every second part finds the first one, and no part that arrives once more finds the other one still there
(`fills_joined_iff`): for objects with the attributes that the methods read, in which no part arrives after both parts.
-/

namespace NautilusMt5

open Py Runs

namespace FillWorld

variable {handlers : FillHandlers} {w w' : FillWorld} {m : FillMessage} {id : String} {call : HandlerRun}

/-- The parts in the details of an id are parts of the id that have arrived, and the accounts have their handlers. -/
structure Sound (handlers : FillHandlers) (w : FillWorld) : Prop where
  execution : ∀ id e, (detailsOf w.details id).execution = some e → e.execId = some id ∧ .execDetails e ∈ w.arrived
  commissionReport : ∀ id r, (detailsOf w.details id).commissionReport = some r →
    r.execId = some id ∧ .commissionReport r ∈ w.arrived
  subscribed : ∀ m ∈ w.arrived, m.subscribed handlers

theorem step_eq_some (hs : w.step handlers m = some w') : m.subscribed handlers ∧
    w' = {
      details := ((handleFillMessage handlers m).run w.details).state
      arrived := w.arrived ++ [m]
      runs := w.runs ++ ((handleFillMessage handlers m).run w.details).emitted } := by
  unfold step at hs
  split_ifs at hs with hsub
  exact ⟨hsub, (Option.some.inj hs).symm⟩

theorem Sound.step (h : Sound handlers w) (hs : w.step handlers m = some w') : Sound handlers w' := by
  obtain ⟨hsub, rfl⟩ := step_eq_some hs
  have hkeeps := keeps_handleFillMessage handlers w.details m
  refine ⟨fun id e he => ?_, fun id r hr => ?_, fun m' hm => ?_⟩
  · rcases hkeeps.execution id e he with hold | ⟨rfl, hid⟩
    · obtain ⟨hid, hmem⟩ := h.execution id e hold
      exact ⟨hid, List.mem_append_left _ hmem⟩
    · exact ⟨hid, by simp⟩
  · rcases hkeeps.commissionReport id r hr with hold | ⟨rfl, hid⟩
    · obtain ⟨hid, hmem⟩ := h.commissionReport id r hold
      exact ⟨hid, List.mem_append_left _ hmem⟩
    · exact ⟨hid, by simp⟩
  · rcases List.mem_append.mp hm with hm | hm
    · exact h.subscribed m' hm
    · rwa [List.mem_singleton.mp hm]

theorem id?_execution {e : Execution} (h : e.execId = some id) : e.id? = some id := by
  rw [Execution.id?, h]
  rfl

theorem id?_commissionReport {r : CommissionReport} (h : r.execId = some id) : r.id? = some id := by
  rw [CommissionReport.id?, h]
  rfl

/-- The account of an execution that arrived has its handler. -/
theorem Sound.handler_of_arrived (h : Sound handlers w) {e : Execution} {account : String}
    (hmem : .execDetails e ∈ w.arrived) (hacct : e.acctNumber.getD "" = account) (hne : account ≠ "") :
    (handlers s!"execDetails-{account}").isSome := by
  have hsub := h.subscribed _ hmem
  cases hnone : e.acctNumber with
  | none => exact absurd (by simp [← hacct, hnone]) hne
  | some a =>
    rw [hnone, Option.getD_some] at hacct
    subst hacct
    simpa [FillMessage.subscribed, hnone] using hsub

/-- **A message that finds the other part** runs the handler on the two. -/
theorem Sound.run_of_finds (h : Sound handlers w) (hs : w.step handlers m = some w') (hf : w.FindsOther m) :
    ∃ id call, m.id? = some id ∧ w.HasOther id m ∧ w'.runs = w.runs ++ [call] ∧ w'.OwnParts id call := by
  obtain ⟨hsub, rfl⟩ := step_eq_some hs
  cases m with
  | execDetails e =>
    obtain ⟨id, hid, hacct, hr⟩ := hf
    obtain ⟨account, hacct⟩ := Option.isSome_iff_exists.mp hacct
    obtain ⟨r, hr⟩ := Option.isSome_iff_exists.mp hr
    obtain ⟨hrid, hmem⟩ := h.commissionReport id r hr
    have hhandler : (handlers s!"execDetails-{account}").isSome := by
      simpa [FillMessage.subscribed, hacct] using hsub
    have hrun := emitted_processExecDetails w.details hid hacct hhandler
    rw [hr] at hrun
    refine ⟨id, _, id?_execution hid, ⟨r, hmem, id?_commissionReport hrid⟩, congrArg (w.runs ++ ·) hrun, ?_⟩
    exact ⟨⟨by simp, id?_execution hid⟩, List.mem_append_left _ hmem, id?_commissionReport hrid⟩
  | commissionReport r =>
    obtain ⟨id, e, hid, he, hne, href⟩ := hf
    obtain ⟨orderRef, href⟩ := Option.isSome_iff_exists.mp href
    obtain ⟨heid, hmem⟩ := h.execution id e he
    have hrun := emitted_processCommissionReport w.details hid he rfl hne (h.handler_of_arrived hmem rfl hne)
    rw [href] at hrun
    refine ⟨id, _, id?_commissionReport hid, ⟨e, hmem, id?_execution heid⟩, congrArg (w.runs ++ ·) hrun, ?_⟩
    exact ⟨⟨List.mem_append_left _ hmem, id?_execution heid⟩, by simp, id?_commissionReport hid⟩

/-- A message that does not find it runs nothing. -/
theorem Sound.runs_of_not_finds (h : Sound handlers w) (hs : w.step handlers m = some w') (hf : ¬ w.FindsOther m) :
    w'.runs = w.runs := by
  obtain ⟨hsub, rfl⟩ := step_eq_some hs
  have hnil : ((handleFillMessage handlers m).run w.details).emitted = [] := by
    cases m with
    | execDetails e =>
      by_cases hnone : e.execId = none ∨ e.acctNumber = none
      · exact emitted_processExecDetails_of_none hnone
      · push Not at hnone
        obtain ⟨id, hid⟩ := Option.ne_none_iff_exists'.mp hnone.1
        obtain ⟨account, hacct⟩ := Option.ne_none_iff_exists'.mp hnone.2
        have hhandler : (handlers s!"execDetails-{account}").isSome := by
          simpa [FillMessage.subscribed, hacct] using hsub
        have hr : (detailsOf w.details id).commissionReport = none := by
          by_contra hr
          exact hf ⟨id, hid, by simp [hacct], Option.isSome_iff_ne_none.mpr hr⟩
        have hrun := emitted_processExecDetails w.details hid hacct hhandler
        rwa [hr] at hrun
    | commissionReport r =>
      by_cases hnone : ∀ id e, r.execId = some id → (detailsOf w.details id).execution = some e →
          e.acctNumber.getD "" = ""
      · exact emitted_processCommissionReport_of_none hnone
      · push Not at hnone
        obtain ⟨id, e, hid, he, hne⟩ := hnone
        obtain ⟨-, hmem⟩ := h.execution id e he
        have href : (detailsOf w.details id).orderRef = none := by
          by_contra href
          exact hf ⟨id, e, hid, he, hne, Option.isSome_iff_ne_none.mpr href⟩
        have hrun := emitted_processCommissionReport w.details hid he rfl hne (h.handler_of_arrived hmem rfl hne)
        rwa [href] at hrun
  exact (congrArg (w.runs ++ ·) hnil).trans (List.append_nil _)

/-! ## Once for every id -/

theorem hasExecution_step (hs : w.step handlers m = some w') :
    w'.HasExecution id ↔ w.HasExecution id ∨ ∃ e, m = .execDetails e ∧ e.id? = some id := by
  obtain ⟨-, rfl⟩ := step_eq_some hs
  simp only [HasExecution, List.mem_append, List.mem_singleton, or_and_right, exists_or]
  simp only [eq_comm]

theorem hasReport_step (hs : w.step handlers m = some w') :
    w'.HasReport id ↔ w.HasReport id ∨ ∃ r, m = .commissionReport r ∧ r.id? = some id := by
  obtain ⟨-, rfl⟩ := step_eq_some hs
  simp only [HasReport, List.mem_append, List.mem_singleton, or_and_right, exists_or]
  simp only [eq_comm]

/-- An id has both parts afterwards when it had, or when the message is the part that it had not. -/
theorem hasBoth_step (hs : w.step handlers m = some w') :
    w'.HasBoth id ↔ w.HasBoth id ∨ m.id? = some id ∧ w.HasOther id m := by
  rw [HasBoth, hasExecution_step hs, hasReport_step hs, HasBoth]
  cases m with
  | execDetails e => simp [FillMessage.id?, HasOther]; tauto
  | commissionReport r => simp [FillMessage.id?, HasOther]; tauto

theorem OwnParts.step (h : w.OwnParts id call) (hs : w.step handlers m = some w') : w'.OwnParts id call := by
  obtain ⟨-, rfl⟩ := step_eq_some hs
  exact ⟨⟨List.mem_append_left _ h.execution.1, h.execution.2⟩,
    List.mem_append_left _ h.commissionReport.1, h.commissionReport.2⟩

/-- The runs of an id after a run for `id`. -/
theorem runsOf_of_run (hruns : w'.runs = w.runs ++ [call]) (hown : w'.OwnParts id call) (id' : String) :
    w'.runsOf id' = if id' = id then w.runsOf id' ++ [call] else w.runsOf id' := by
  rw [runsOf, hruns, List.filter_append, List.filter_singleton, hown.execution.2]
  by_cases h : id' = id
  · simp [h, runsOf]
  · simp [h, Ne.symm h, runsOf]

/-- A message that finds the other part of its id runs the handler of the id. -/
theorem JoinedOnce.step_of_finds (hj : w.JoinedOnce) (h : Sound handlers w) (hjoins : w.Joins m)
    (hf : w.FindsOther m) (hs : w.step handlers m = some w') : w'.JoinedOnce := by
  obtain ⟨id, call, hid, hother, hruns, hown⟩ := h.run_of_finds hs hf
  have hnew : ¬ w.HasBoth id := fun hboth => hjoins.2 ⟨id, hid, hboth⟩ hf
  have hof := runsOf_of_run hruns hown
  constructor
  · intro id' hboth
    by_cases hsame : id' = id
    · subst hsame
      refine ⟨call, ?_, hown⟩
      rw [hof, if_pos rfl, hj.never id' hnew, List.nil_append]
    · rcases (hasBoth_step hs).mp hboth with hold | ⟨hid', -⟩
      · obtain ⟨call', hcall, hown'⟩ := hj.once id' hold
        refine ⟨call', ?_, hown'.step hs⟩
        rw [hof, if_neg hsame, hcall]
      · rw [hid, Option.some.injEq] at hid'
        exact absurd hid'.symm hsame
  · intro id' hboth
    rw [hasBoth_step hs, not_or] at hboth
    have hsame : id' ≠ id := by
      rintro rfl
      exact hboth.2 ⟨hid, hother⟩
    rw [hof, if_neg hsame, hj.never id' hboth.1]

/-- A message that finds no other part runs nothing, and completes nothing. -/
theorem JoinedOnce.step_of_not_finds (hj : w.JoinedOnce) (h : Sound handlers w) (hjoins : w.Joins m)
    (hf : ¬ w.FindsOther m) (hs : w.step handlers m = some w') : w'.JoinedOnce := by
  have hruns := h.runs_of_not_finds hs hf
  have hof : ∀ id, w'.runsOf id = w.runsOf id := fun id => by rw [runsOf, hruns, runsOf]
  have hsame : ∀ id, w'.HasBoth id ↔ w.HasBoth id := by
    intro id
    rw [hasBoth_step hs, or_iff_left_iff_imp]
    rintro ⟨hid, hother⟩
    by_contra hnew
    exact hf (hjoins.1 ⟨id, hid, hother, hnew⟩)
  constructor
  · intro id hboth
    obtain ⟨call, hcall, hown⟩ := hj.once id ((hsame id).mp hboth)
    exact ⟨call, (hof id).trans hcall, hown.step hs⟩
  · intro id hboth
    exact (hof id).trans (hj.never id fun h => hboth ((hsame id).mpr h))

/-- **One message** that joins as it should. -/
theorem JoinedOnce.step (hj : w.JoinedOnce) (h : Sound handlers w) (hjoins : w.Joins m)
    (hs : w.step handlers m = some w') : w'.JoinedOnce := by
  by_cases hf : w.FindsOther m
  · exact hj.step_of_finds h hjoins hf hs
  · exact hj.step_of_not_finds h hjoins hf hs

/-- A message that does not join as it should. -/
theorem not_joinedOnce_step (hj : w.JoinedOnce) (h : Sound handlers w) (hjoins : ¬ w.Joins m)
    (hs : w.step handlers m = some w') : ¬ w'.JoinedOnce := by
  intro hj'
  rw [Joins, not_and_or] at hjoins
  push Not at hjoins
  rcases hjoins with ⟨⟨id, hid, hother, hnew⟩, hf⟩ | ⟨⟨id, hid, hboth⟩, hf⟩
  · -- the second part runs nothing
    obtain ⟨call, hcall, -⟩ := hj'.once id ((hasBoth_step hs).mpr (.inr ⟨hid, hother⟩))
    rw [runsOf, h.runs_of_not_finds hs hf] at hcall
    have hnone := hj.never id hnew
    rw [runsOf, hcall] at hnone
    cases hnone
  · -- a part that comes once more runs the handler once more
    obtain ⟨id', call, hid', -, hruns, hown⟩ := h.run_of_finds hs hf
    rw [hid, Option.some.injEq] at hid'
    subst hid'
    obtain ⟨first, hfirst, -⟩ := hj.once id hboth
    obtain ⟨only', hcall, -⟩ := hj'.once id ((hasBoth_step hs).mpr (.inl hboth))
    rw [runsOf_of_run hruns hown, if_pos rfl, hfirst] at hcall
    cases hcall

theorem joinedOnce_init : JoinedOnce {} where
  once := by
    rintro id ⟨⟨e, hmem, -⟩, -⟩
    cases hmem
  never := fun _ _ => rfl

theorem sound_init (handlers : FillHandlers) : Sound handlers {} where
  execution := fun _ _ h => by cases h
  commissionReport := fun _ _ h => by cases h
  subscribed := fun _ h => by cases h

/-! ## Objects with the attributes -/

/-- The keys of the details of an id. -/
def IsKey (id : String) : Prop := id = "execution" ∨ id = "order_ref" ∨ id = "commission_report"

/-- An object with the attributes that the methods read, of an id that is no key of the details. -/
def Named : FillMessage → Prop
  | .execDetails e => (∃ id, e.execId = some id ∧ ¬ IsKey id) ∧ e.acctNumber.getD "" ≠ ""
  | .commissionReport r => ∃ id, r.execId = some id ∧ ¬ IsKey id

theorem pop_of_not_isKey (h : ¬ IsKey id) (cache : ExecDetails) : cache.pop id = cache := by
  simp only [IsKey, not_or] at h
  simp [ExecDetails.pop, h.1, h.2.1, h.2.2]

/-- What is in the details stays there. -/
structure Grows (details d : Dict String ExecDetails) : Prop where
  execution : ∀ id, (detailsOf details id).execution.isSome → (detailsOf d id).execution.isSome
  orderRef : ∀ id, (detailsOf details id).orderRef.isSome → (detailsOf d id).orderRef.isSome
  commissionReport : ∀ id, (detailsOf details id).commissionReport.isSome → (detailsOf d id).commissionReport.isSome

theorem grows_refl (details : Dict String ExecDetails) : Grows details details :=
  ⟨fun _ h => h, fun _ h => h, fun _ h => h⟩

variable {details d d' : Dict String ExecDetails}

theorem Grows.trans (h : Grows details d) (h' : Grows d d') : Grows details d' :=
  ⟨fun id hs => h'.execution id (h.execution id hs), fun id hs => h'.orderRef id (h.orderRef id hs),
    fun id hs => h'.commissionReport id (h.commissionReport id hs)⟩

/-- A new entry that has what the old one has. -/
theorem Grows.set (h : Grows details d) {cache : ExecDetails}
    (he : (detailsOf d id).execution.isSome → cache.execution.isSome)
    (ho : (detailsOf d id).orderRef.isSome → cache.orderRef.isSome)
    (hr : (detailsOf d id).commissionReport.isSome → cache.commissionReport.isSome) :
    Grows details (d.set id cache) := by
  constructor <;> intro id' hsome <;> rw [detailsOf_set] <;> split_ifs with hid
  · exact he (hid ▸ h.execution id' hsome)
  · exact h.execution id' hsome
  · exact ho (hid ▸ h.orderRef id' hsome)
  · exact h.orderRef id' hsome
  · exact hr (hid ▸ h.commissionReport id' hsome)
  · exact h.commissionReport id' hsome

/-- After a handler has run the details stay. -/
theorem grows_runHandler (hkey : ¬ IsKey id) (handler : HandlerRun → Except Error (List OrderEvent))
    (call : HandlerRun) :
    Method.Preserves (Grows details)
      (runHandler handler call >>= fun _ => setDetails id fun cache => cache.pop id) := by
  refine Method.preserves_bind (Method.preserves_bind (Method.preserves_emitAll _) fun _ =>
    Method.preserves_bind (Method.preserves_ofExcept _) fun _ => Method.preserves_pure _) fun _ => ?_
  refine Method.preserves_modifyState fun d hd => ?_
  show Grows details (d.set id ((detailsOf d id).pop id))
  rw [pop_of_not_isKey hkey]
  exact hd.set (fun h => h) (fun h => h) (fun h => h)

/-- An execution stays in the details of its id. -/
theorem grows_processExecDetails (handlers : FillHandlers) (details : Dict String ExecDetails) {e : Execution}
    (hid : e.execId = some id) (hkey : ¬ IsKey id) :
    Grows (details.set id { detailsOf details id with
        execution := some e, orderRef := some (rsplitHead ':' e.orderId) })
      ((processExecDetails handlers e).run details).state := by
  simp only [processExecDetails, hid, getattr, setDetails, Method.run_ofExcept_ok_bind, Method.run_modifyState_bind,
    detailsOf_set, if_true]
  refine Method.preserves_bind (Method.preserves_ofExcept _) (fun account => ?_) _ ?_
  · refine Method.preserves_bind Method.preserves_getState fun d => ?_
    split
    · exact grows_runHandler hkey _ _
    · exact Method.preserves_pure _
  · constructor <;> intro id' hsome <;> simp only [detailsOf_set] at hsome ⊢ <;> split_ifs at hsome ⊢ <;> exact hsome

/-- A commission stays in the details of its id. -/
theorem grows_processCommissionReport (handlers : FillHandlers) (details : Dict String ExecDetails)
    {r : CommissionReport} (hid : r.execId = some id) (hkey : ¬ IsKey id) :
    Grows (details.set id { detailsOf details id with commissionReport := some r })
      ((processCommissionReport handlers r).run details).state := by
  simp only [processCommissionReport, hid, getattr, setDetails, Method.run_ofExcept_ok_bind,
    Method.run_modifyState_bind]
  refine Method.preserves_bind Method.preserves_getState (fun d => ?_) _ (grows_refl _)
  split
  · exact Method.preserves_pure _
  · split_ifs
    · exact Method.preserves_pure _
    · split
      · exact Method.preserves_pure _
      · exact Method.preserves_bind (Method.preserves_ofExcept _) fun orderRef => grows_runHandler hkey _ _

/-- What arrived of an id is in its details. -/
structure Full (w : FillWorld) : Prop where
  named : ∀ m ∈ w.arrived, Named m
  execution : ∀ id, w.HasExecution id →
    (detailsOf w.details id).execution.isSome ∧ (detailsOf w.details id).orderRef.isSome
  commissionReport : ∀ id, w.HasReport id → (detailsOf w.details id).commissionReport.isSome

/-- Details that hold what had arrived and the message, `set`, stay full when they grow. -/
theorem Full.of_grows {set : Dict String ExecDetails} (hfull : w.Full) (hm : Named m)
    (hs : w.step handlers m = some w') (hset : Grows w.details set)
    (hgrows : Grows set ((handleFillMessage handlers m).run w.details).state)
    (hexecution : ∀ id e, m = .execDetails e → e.id? = some id →
      (detailsOf set id).execution.isSome ∧ (detailsOf set id).orderRef.isSome)
    (hreport : ∀ id r, m = .commissionReport r → r.id? = some id → (detailsOf set id).commissionReport.isSome) :
    w'.Full := by
  have hexecution' : ∀ id, w'.HasExecution id →
      (detailsOf set id).execution.isSome ∧ (detailsOf set id).orderRef.isSome := by
    intro id h
    rcases (hasExecution_step hs).mp h with h | ⟨e, he, hid⟩
    · exact ⟨hset.execution id (hfull.execution id h).1, hset.orderRef id (hfull.execution id h).2⟩
    · exact hexecution id e he hid
  have hreport' : ∀ id, w'.HasReport id → (detailsOf set id).commissionReport.isSome := by
    intro id h
    rcases (hasReport_step hs).mp h with h | ⟨r, hr, hid⟩
    · exact hset.commissionReport id (hfull.commissionReport id h)
    · exact hreport id r hr hid
  obtain ⟨-, rfl⟩ := step_eq_some hs
  refine ⟨fun m' hmem => ?_, fun id h => ?_, fun id h => hgrows.commissionReport id (hreport' id h)⟩
  · rcases List.mem_append.mp hmem with hmem | hmem
    · exact hfull.named m' hmem
    · rwa [List.mem_singleton.mp hmem]
  · exact ⟨hgrows.execution id (hexecution' id h).1, hgrows.orderRef id (hexecution' id h).2⟩

theorem Full.step (hfull : w.Full) (hm : Named m) (hs : w.step handlers m = some w') : w'.Full := by
  cases m with
  | execDetails e =>
    obtain ⟨id, hid, hkey⟩ := hm.1
    have hset : Grows w.details (w.details.set id { detailsOf w.details id with
        execution := some e, orderRef := some (rsplitHead ':' e.orderId) }) :=
      (grows_refl w.details).set (fun _ => rfl) (fun _ => rfl) (fun h => h)
    refine hfull.of_grows hm hs hset (grows_processExecDetails handlers w.details hid hkey) ?_ ?_
    · rintro id' e' ⟨⟩ hid'
      rw [id?_execution hid, Option.some.injEq] at hid'
      simp [detailsOf_set, hid']
    · rintro id' r ⟨⟩
  | commissionReport r =>
    obtain ⟨id, hid, hkey⟩ := show ∃ id, r.execId = some id ∧ ¬ IsKey id from hm
    have hset : Grows w.details (w.details.set id { detailsOf w.details id with commissionReport := some r }) :=
      (grows_refl w.details).set (fun h => h) (fun h => h) (fun _ => rfl)
    refine hfull.of_grows hm hs hset (grows_processCommissionReport handlers w.details hid hkey) ?_ ?_
    · rintro id' e ⟨⟩
    · rintro id' r' ⟨⟩ hid'
      rw [id?_commissionReport hid, Option.some.injEq] at hid'
      simp [detailsOf_set, hid']

/-- An object with the attributes finds the other part when it has arrived. -/
theorem Full.findsOther_iff (hfull : w.Full) (h : Sound handlers w) (hm : Named m) (hid : m.id? = some id) :
    w.FindsOther m ↔ w.HasOther id m := by
  cases m with
  | execDetails e =>
    obtain ⟨⟨id', hid', -⟩, hacct⟩ := hm
    obtain rfl : id' = id := Option.some.inj ((id?_execution hid').symm.trans hid)
    constructor
    · rintro ⟨id, hid, -, hr⟩
      obtain rfl : id = id' := Option.some.inj (hid.symm.trans hid')
      obtain ⟨r, hr⟩ := Option.isSome_iff_exists.mp hr
      obtain ⟨hrid, hmem⟩ := h.commissionReport id r hr
      exact ⟨r, hmem, id?_commissionReport hrid⟩
    · intro hother
      refine ⟨id', hid', ?_, hfull.commissionReport id' hother⟩
      cases hnone : e.acctNumber with
      | none => exact absurd (by simp [hnone]) hacct
      | some account => rfl
  | commissionReport r =>
    obtain ⟨id', hid', -⟩ := hm
    obtain rfl : id' = id := Option.some.inj ((id?_commissionReport hid').symm.trans hid)
    constructor
    · rintro ⟨id, e, hid, he, -⟩
      obtain rfl : id = id' := Option.some.inj (hid.symm.trans hid')
      obtain ⟨heid, hmem⟩ := h.execution id e he
      exact ⟨e, hmem, id?_execution heid⟩
    · intro hother
      obtain ⟨he, href⟩ := hfull.execution id' hother
      obtain ⟨e, he⟩ := Option.isSome_iff_exists.mp he
      have hnamed := hfull.named _ (h.execution id' e he).2
      exact ⟨id', e, hid', he, hnamed.2, href⟩

theorem Full.joins_iff (hfull : w.Full) (h : Sound handlers w) (hm : Named m) : w.Joins m ↔ ¬ w.Repeats m := by
  constructor
  · rintro ⟨-, hagain⟩ ⟨id, hid, hboth⟩
    refine hagain ⟨id, hid, hboth⟩ ((hfull.findsOther_iff h hm hid).mpr ?_)
    cases m with
    | execDetails e => exact hboth.2
    | commissionReport r => exact hboth.1
  · intro hnew
    refine ⟨?_, fun hagain => absurd hagain hnew⟩
    rintro ⟨id, hid, hother, -⟩
    exact (hfull.findsOther_iff h hm hid).mpr hother

theorem full_init : Full {} where
  named := fun _ h => by cases h
  execution := by
    rintro id ⟨e, hmem, -⟩
    cases hmem
  commissionReport := by
    rintro id ⟨r, hmem, -⟩
    cases hmem

/-- Over objects with the attributes the messages join exactly when none comes after both parts of its id. -/
theorem every_joins_iff {msgs : List FillMessage} (hnamed : ∀ m ∈ msgs, Named m) (hfull : w.Full)
    (h : Sound handlers w) :
    Every (step handlers) Joins w msgs ↔ Every (step handlers) (fun w m => ¬ w.Repeats m) w msgs := by
  induction msgs generalizing w with
  | nil => exact Iff.rfl
  | cons m msgs ih =>
    have hm := hnamed m List.mem_cons_self
    rw [Every, Every, hfull.joins_iff h hm]
    refine and_congr_right fun _ => forall_congr' fun w' => imp_congr_right fun hs => ?_
    exact ih (fun m hmem => hnamed m (List.mem_cons_of_mem _ hmem)) (hfull.step hm hs) (h.step hs)

/-- **The fills of a run** are joined once for every id if and only if every second part finds the first, and no part
that comes once more finds the other one; over objects with the attributes, if and only if no message comes after both
parts of its id. -/
theorem fills_joined_iff {msgs : List FillMessage} (hrun : run (step handlers) {} msgs = some w) :
    ((∀ msgs' w', msgs' <+: msgs → run (step handlers) {} msgs' = some w' → w'.JoinedOnce) ↔
        Every (step handlers) Joins {} msgs) ∧
      ((∀ m ∈ msgs, Named m) →
        (Every (step handlers) Joins {} msgs ↔ Every (step handlers) (fun w m => ¬ w.Repeats m) {} msgs)) := by
  have hinit : JoinedOnce {} ∧ Sound handlers {} := ⟨joinedOnce_init, sound_init handlers⟩
  refine ⟨?_, fun hnamed => every_joins_iff hnamed full_init hinit.2⟩
  refine every_iff (I := JoinedOnce) (J := fun w => w.JoinedOnce ∧ Sound handlers w) (fun w h => h.1) ?_ ?_ hinit hrun
  · intro w m w' h hjoins hs
    exact ⟨h.1.step h.2 hjoins hs, h.2.step hs⟩
  · intro w m w' h hjoins hs
    exact not_joinedOnce_step h.1 h.2 hjoins hs

/-! ## An execution of EURUSD -/

/-- A buy of 1 EURUSD, as an object with the attributes of both classes. -/
def eurusdBuy : Execution where
  execId := some "D1"
  acctNumber := some "100"
  orderId := "O-1:7"
  exec_id := some "D1"
  side := some dealTypeBuy
  quantity := some 1
  price := some (11 / 10)
  time := some "2024-01-01 00:00:00 UTC"

/-- Its commission. -/
def eurusdCommission : CommissionReport where
  execId := some "D1"
  exec_id := some "D1"
  commission := some 2
  currency := some "USD"

/-- Constructors that keep every value. -/
def keepingLib : FillLib where
  tradeId := .ok
  quantity := fun _ => .ok
  price := fun _ => .ok
  money := fun value _ => .ok value
  timestamp := fun _ => .ok 0

/-- The order of the execution. -/
def eurusdOrder : Order where
  strategyId := "S-1"
  instrumentId := eurusd.id
  clientOrderId := "O-1"
  venueOrderId := some "7"
  side := .buy
  orderType := .market
  timeInForce := .gtc
  quantity := 1
  price := none
  triggerPrice := none
  status := .accepted

/-- The handler of account 100. -/
def eurusdHandlers : FillHandlers := fun name =>
  if name = "execDetails-100" then
    some (onExecDetails keepingLib {
      instrument := fun id => if id = eurusd.id then some eurusd else none
      order := fun ref => if ref = "O-1" then some eurusdOrder else none })
  else none

/-- The events that the handler of account 100 generates in its runs. -/
def eurusdEvents (w : FillWorld) : List OrderEvent :=
  w.runs.flatMap fun call => (((eurusdHandlers "execDetails-100").map fun handler =>
    (handler call).toOption.getD []).getD [])

/-- The execution comes twice before its commission. -/
theorem eurusd_joined : ∃ w, run (step eurusdHandlers) {} [.execDetails eurusdBuy, .execDetails eurusdBuy,
    .commissionReport eurusdCommission] = some w ∧ w.JoinedOnce := by
  refine ⟨_, rfl, ?_⟩
  obtain ⟨hiff, hnamed⟩ := @fills_joined_iff eurusdHandlers _ [.execDetails eurusdBuy,
    .execDetails eurusdBuy, .commissionReport eurusdCommission] rfl
  refine hiff.mpr ((hnamed ?_).mpr ?_) _ _ (List.prefix_refl _) rfl
  · simp [Named, IsKey, eurusdBuy, eurusdCommission]
  · have hno : ∀ (w : FillWorld) m, (∀ r, .commissionReport r ∉ w.arrived) → ¬ w.Repeats m := by
      rintro w m hno ⟨id, -, -, r, hmem, -⟩
      exact hno r hmem
    refine ⟨hno _ _ (by simp), fun w₁ h₁ => ⟨hno _ _ ?_, fun w₂ h₂ => ⟨hno _ _ ?_, fun _ _ => trivial⟩⟩⟩
    · obtain ⟨-, rfl⟩ := step_eq_some h₁
      simp
    · obtain ⟨-, rfl⟩ := step_eq_some h₁
      obtain ⟨-, rfl⟩ := step_eq_some h₂
      simp

/-- The commission comes twice: two fills of one execution. -/
theorem eurusd_filled_twice : ∃ w, run (step eurusdHandlers) {} [.execDetails eurusdBuy,
    .commissionReport eurusdCommission, .commissionReport eurusdCommission] = some w ∧
      (eurusdEvents w).length = 2 ∧ ¬ w.JoinedOnce := by
  refine ⟨_, rfl, by decide +kernel, fun h => ?_⟩
  refine absurd (h.once "D1" ⟨⟨eurusdBuy, ?_, rfl⟩, ⟨eurusdCommission, ?_, rfl⟩⟩) ?_
  · exact List.mem_cons_self
  · exact List.mem_cons_of_mem (FillMessage.execDetails eurusdBuy) List.mem_cons_self
  · rintro ⟨call, hcall, -⟩
    have hlength := congrArg List.length hcall
    rw [List.length_singleton] at hlength
    revert hlength
    decide +kernel

end FillWorld

end NautilusMt5
