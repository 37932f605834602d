import NautilusMt5.Feed.Effects
import NautilusMt5.Lib.Indexed

/-!
# No subscription is lost

The data client keeps what the user wants in its two sets (`Desired`), and every hello of a connection replays them on
it. So once the adapter has processed a hello of the open connection, every wanted key is active at the Service, or on
its way there, or in a bar replay that the handler of this connection still has to send (`Owed`). `Inv` says this of a
state and `step_inv` keeps it; `no_lost_subscription` is the result for quiescent states.
-/

namespace NautilusMt5

open LastWrite Runs Indexed

/-- A bar replay that has still to send the key, or to capture the keys that it sends. -/
def ReplayTask.Owes (t : ReplayTask) : FeedKey → Prop
  | .quote _ => False
  | .bar symbol timeframe =>
    match t.rest with
    | none => True
    | some groups => ∃ g ∈ groups, g.1 = timeframe ∧ symbol ∈ g.2

namespace FeedWorld

/-- A replay by the handler of the connection owes the key. -/
def Owed (w : FeedWorld) (c : ℕ) (k : FeedKey) : Prop := ∃ t ∈ w.tasks, t.owner = some c ∧ t.Owes k

/-- Connections are numbered in the order of their opening, and are read only once they were accepted. -/
structure Wires (w : FeedWorld) : Prop where
  unread : ∀ c, (w.links c).helloed = true → (w.links c).adapterEnd ≠ .absent ∧ (w.links c).adapterEnd ≠ .waiting
  fresh : ∀ c, w.nextLink ≤ c → (w.links c).adapterEnd = .absent

structure Inv (w : FeedWorld) : Prop extends Wires w where
  known : ∀ k, w.lastCommand k = some true → w.Desired k
  covered : ∀ c, w.Ready c → ∀ k, w.Desired k → w.effective k = true ∨ w.Owed c k

theorem init_inv (session : String) (symbols : List String) (bars : List BarKey) : Inv (init session symbols bars) where
  unread c h := by cases h
  fresh c _ := rfl
  known k h := by cases h
  covered c h := by cases h.1

/-! ## Connections -/

theorem Ready.delivers {w : FeedWorld} {c : ℕ} (h : w.Ready c) : w.Delivers := ⟨c, h.1, h.2.1⟩

theorem Ready.opened {w : FeedWorld} {c : ℕ} (h : w.Ready c) : (w.links c).adapterEnd = .opened := by
  obtain ⟨g, -, -, ho⟩ := connected_eq_some.1 h.1
  exact ho

theorem Ready.gateway {w : FeedWorld} {c : ℕ} (h : w.Ready c) : w.gateway ≠ none := by
  obtain ⟨g, hg, -⟩ := connected_eq_some.1 h.1
  simp [hg]

theorem SameEnds.wires {w w' : FeedWorld} (h : SameEnds w w') (hw : Wires w) : Wires w' where
  unread c hc := by
    rw [h.adapterEnd]
    exact hw.unread c (h.helloed c ▸ hc)
  fresh c hc := by
    rw [h.adapterEnd]
    exact hw.fresh c (h.nextLink ▸ hc)

/-- A link that was opened before may change its ends. -/
theorem wires_of_update {w w' : FeedWorld} (hw : Wires w) {c : ℕ} {l : Link}
    (hlinks : w'.links = Function.update w.links c l) (hnext : w'.nextLink = w.nextLink)
    (hc : (w.links c).adapterEnd ≠ .absent)
    (hl : l.helloed = true → l.adapterEnd ≠ .absent ∧ l.adapterEnd ≠ .waiting) : Wires w' where
  unread d hd := by
    rw [hlinks] at hd ⊢
    by_cases hdc : d = c
    · subst hdc
      rw [Function.update_self] at hd ⊢
      exact hl hd
    · rw [Function.update_of_ne hdc] at hd ⊢
      exact hw.unread d hd
  fresh d hd := by
    rw [hnext] at hd
    have hdc : d ≠ c := by
      rintro rfl
      exact hc (hw.fresh d hd)
    rw [hlinks, Function.update_of_ne hdc]
    exact hw.fresh d hd

/-! ## Steps that send nothing -/

/-- A step that sends nothing keeps the invariant if it makes no connection ready and drops no debt of one. -/
theorem inv_of_frame {w w' : FeedWorld} (hi : Inv w) (hf : Frame w w') (hw : Wires w')
    (hr : ∀ c, w'.Ready c → w.Ready c)
    (ho : ∀ c k, w'.Ready c → w.Desired k → w.Owed c k → w'.Owed c k) : Inv w' where
  toWires := hw
  known k hk := by
    rw [hf.desired]
    apply hi.known k
    unfold lastCommand at hk ⊢
    rwa [hf.commanded] at hk
  covered c hc k hk := by
    rw [hf.effective]
    have hk' := (hf.desired k).1 hk
    exact (hi.covered c (hr c hc) k hk').imp id (ho c k hc hk')

/-- The same for a step after which no connection is ready. -/
theorem inv_of_not_ready {w w' : FeedWorld} (hi : Inv w) (hc : w'.commanded = w.commanded)
    (hd : ∀ k, w'.Desired k ↔ w.Desired k) (hw : Wires w') (hr : ∀ c, ¬ w'.Ready c) : Inv w' where
  toWires := hw
  known k hk := by
    rw [hd]
    apply hi.known k
    unfold lastCommand at hk ⊢
    rwa [hc] at hk
  covered c h := absurd h (hr c)

theorem gatewayStart_inv {w w' : FeedWorld} (hi : Inv w) (h : w.gatewayStart = some w') : Inv w' := by
  have hf := gatewayStart_frame h
  unfold gatewayStart at h
  split at h
  · cases h
    refine inv_of_not_ready hi hf.commanded hf.desired ⟨hi.unread, hi.fresh⟩ (fun c hc => ?_)
    obtain ⟨g, hg, hs, -⟩ := connected_eq_some.1 hc.1
    cases hg
    cases hs
  · cases h

theorem gatewayStop_inv {w w' : FeedWorld} (hi : Inv w) (h : w.gatewayStop = some w') : Inv w' := by
  have hf := gatewayStop_frame h
  unfold gatewayStop at h
  split at h
  · cases h
  · split_ifs at h
    cases h
    refine inv_of_not_ready hi hf.commanded hf.desired ?_ (fun c hc => ?_)
    · cases hc : w.connected with
      | none => exact ⟨hi.unread, hi.fresh⟩
      | some c =>
        obtain ⟨g, -, -, ho⟩ := connected_eq_some.1 hc
        exact wires_of_update hi.toWires rfl rfl (by simp [ho]) (fun _ => by simp)
    · obtain ⟨g, hg, hs, -⟩ := connected_eq_some.1 hc.1
      cases hg
      cases hs

theorem gatewayStopped_inv {w w' : FeedWorld} (hi : Inv w) (h : w.gatewayStopped = some w') : Inv w' := by
  have hf := gatewayStopped_frame h
  unfold gatewayStopped at h
  split at h
  · cases h
  · split_ifs at h
    cases h
    refine inv_of_not_ready hi hf.commanded hf.desired ⟨fun c hc => ?_, fun c hc => ?_⟩ (fun c hc => ?_)
    · by_cases ha : (w.links c).adapterEnd = .absent
      · simp only [ha, if_true] at hc
        exact absurd ha (hi.unread c hc).1
      · simp [ha]
    · simp [hi.fresh c hc]
    · obtain ⟨g, hg, -⟩ := connected_eq_some.1 hc.1
      cases hg

theorem replace_inv {w w' : FeedWorld} (hi : Inv w) {c : ℕ} (h : w.replace c = some w') : Inv w' := by
  have hf := replace_frame h
  unfold replace at h
  split_ifs at h
  obtain ⟨d, hd, rfl⟩ := Option.map_eq_some_iff.1 h
  obtain ⟨g, hg, hs, ho⟩ := connected_eq_some.1 hd
  refine inv_of_not_ready hi hf.commanded hf.desired ?_ (fun e he => ?_)
  · exact wires_of_update hi.toWires rfl rfl (by simp [ho]) (fun _ => by simp)
  · -- the slot still has the connection that was closed
    obtain ⟨g', hg', hs', ho'⟩ := connected_eq_some.1 he.1
    cases hg.symm.trans hg'
    cases hs.symm.trans hs'
    simp [setLink] at ho'

theorem accept_inv {w w' : FeedWorld} (hi : Inv w) {c : ℕ} (h : w.accept c = some w') : Inv w' := by
  have hf := accept_frame h
  unfold accept at h
  split at h
  · split_ifs at h with hwait
    cases h
    have hh : (w.links c).helloed = false := by
      by_contra hc
      exact (hi.unread c (by simpa using hc)).2 hwait
    refine inv_of_not_ready hi hf.commanded hf.desired ?_ (fun d hd => ?_)
    · exact wires_of_update hi.toWires rfl rfl (by simp [hwait]) (fun _ => by simp)
    · obtain ⟨g, hg, hs, -⟩ := connected_eq_some.1 hd.1
      cases hg
      cases hs
      have := hd.2.2
      simp [setLink, hh] at this
  · cases h

theorem close_inv {w w' : FeedWorld} (hi : Inv w) {c : ℕ} (h : w.close c = some w') : Inv w' := by
  have hf := close_frame h
  unfold close at h
  have key : ∀ e : AdapterEnd, (w.links c).adapterEnd ≠ .absent → e ≠ .opened → e ≠ .absent → e ≠ .waiting →
      w' = w.setLink c { w.links c with adapterEnd := e } → Inv w' := by
    rintro e ha hopen habs hwait rfl
    refine inv_of_frame hi hf (wires_of_update hi.toWires rfl rfl ha (fun _ => ⟨habs, hwait⟩)) (fun d hd => ?_)
      (fun d k _ _ ho => ho)
    obtain ⟨hcon, hconn, hh⟩ := hd
    obtain ⟨g, hg, hs, ho⟩ := connected_eq_some.1 hcon
    have hdc : d ≠ c := by
      rintro rfl
      simp only [setLink, Function.update_self] at ho
      exact hopen ho
    simp only [setLink, Function.update_of_ne hdc] at ho hh
    exact ⟨connected_eq_some.2 ⟨g, hg, hs, ho⟩, hconn, hh⟩
  split at h
  · rename_i ha
    exact key .ended (by simp [ha]) (by decide) (by decide) (by decide) (Option.some.inj h).symm
  · rename_i ha
    exact key .closed (by simp [ha]) (by decide) (by decide) (by decide) (Option.some.inj h).symm
  · cases h

theorem handlerEnd_inv {w w' : FeedWorld} (hi : Inv w) {c : ℕ} (h : w.handlerEnd c = some w') : Inv w' := by
  have hf := handlerEnd_frame h
  unfold handlerEnd at h
  split_ifs at h with hcond
  cases h
  refine inv_of_frame hi hf (wires_of_update hi.toWires rfl rfl (by simp [hcond.1]) (fun _ => by simp))
    (fun d hd => ?_) (fun d k _ _ ho => ho)
  obtain ⟨hcon, hconn, hh⟩ := hd
  obtain ⟨g', hg', hs', ho⟩ := connected_eq_some.1 hcon
  have hdc : d ≠ c := by
    rintro rfl
    simp [setLink] at ho
  simp only [setLink, Function.update_of_ne hdc] at ho hh
  obtain ⟨g, hg, rfl⟩ := Option.map_eq_some_iff.1 hg'
  refine ⟨connected_eq_some.2 ⟨g, hg, ?_, ho⟩, hconn, hh⟩
  by_cases hgc : g.serviceWs = some c
  · simp [hgc] at hs'
  · simpa [hgc] using hs'

/-! ## Replays on their way -/

/-- A step that only changes the tasks. -/
theorem inv_of_tasks {w : FeedWorld} (hi : Inv w) (tasks : List ReplayTask)
    (ho : ∀ c k, w.Ready c → w.Desired k → w.Owed c k → Owed { w with tasks := tasks } c k) :
    Inv { w with tasks := tasks } :=
  inv_of_frame hi (frame_of rfl rfl rfl rfl rfl (fun _ => rfl)) ⟨hi.unread, hi.fresh⟩ (fun _ hc => hc)
    (fun c k hc hk => ho c k hc (by cases k <;> exact hk))

/-- The keys that are captured are those that the user wants, and more. -/
theorem captured_owes {w : FeedWorld} (owner : Option ℕ) {symbol : String} {timeframe : Timeframe}
    (hk : w.Desired (.bar symbol timeframe)) :
    ReplayTask.Owes ⟨owner, some (byTimeframe (sortedBarKeys w.pendingBars))⟩ (.bar symbol timeframe) := by
  have hm : (symbol, timeframe) ∈ sortedBarKeys w.pendingBars := by
    rw [mem_sortedBarKeys]
    exact mem_setUnion.2 (.inl hk)
  exact mem_byTimeframe.2 hm

theorem captureBars_inv {w w' : FeedWorld} (hi : Inv w) {i : ℕ} (h : w.captureBars i = some w') : Inv w' := by
  unfold captureBars at h
  split at h
  · rename_i owner ht
    split at h
    · rename_i hg
      cases h
      exact inv_of_tasks hi _ (fun c k hc _ _ => absurd hg hc.gateway)
    · cases h
      refine inv_of_tasks hi _ (fun c k hc hk ho => ?_)
      obtain ⟨t, htm, hto, htk⟩ := ho
      by_cases hte : t = ⟨owner, none⟩
      · refine ⟨_, mem_set_self _ ht, ?_, ?_⟩
        · subst hte
          exact hto
        · cases k with
          | quote symbol => exact htk.elim
          | bar symbol timeframe => exact captured_owes owner hk
      · exact ⟨t, mem_set_of_ne _ ht htm hte, hto, htk⟩
  · cases h

theorem abortReplay_inv {w w' : FeedWorld} (hi : Inv w) {i : ℕ} (h : w.abortReplay i = some w') : Inv w' := by
  unfold abortReplay at h
  split at h
  · cases h
  · rename_i t ht
    have key : (∀ c, w.Ready c → t.owner ≠ some c) → Inv { w with tasks := w.tasks.eraseIdx i } := by
      intro hne
      refine inv_of_tasks hi _ (fun c k hc _ ho => ?_)
      obtain ⟨u, hu, huo, huk⟩ := ho
      refine ⟨u, mem_eraseIdx ht hu ?_, huo, huk⟩
      rintro rfl
      exact hne c hc huo
    split at h
    · rename_i hown
      cases h
      exact key (fun c _ => by simp [hown])
    · rename_i c hown
      split_ifs at h with hopen
      cases h
      refine key (fun d hd => ?_)
      rw [hown]
      rintro ⟨⟩
      exact hopen hd.opened

theorem replayBars_inv {w w' : FeedWorld} (hi : Inv w) {i : ℕ} (h : w.replayBars i = some w') : Inv w' := by
  rcases replayBars_cases h with ⟨rfl, hend⟩ | ⟨owner, g, rest, ht, -, rfl⟩
  · refine inv_of_tasks hi _ (fun c k hc _ ho => ?_)
    obtain ⟨owner, ht⟩ := hend hc.gateway
    obtain ⟨u, hu, huo, huk⟩ := ho
    refine ⟨u, mem_eraseIdx ht hu ?_, huo, huk⟩
    -- a replay at its end owes nothing
    rintro rfl
    cases k with
    | quote symbol => exact huk
    | bar symbol timeframe =>
      obtain ⟨g, hg, -⟩ := huk
      cases hg
  · have hs := gatewaySubscribeBars_sends w g.2 g.1
    have hse := hs.toSameEnds
    have hwires := hse.wires hi.toWires
    refine ⟨⟨hwires.unread, hwires.fresh⟩, fun k hk => ?_, fun c hc k hk => ?_⟩
    · have := hi.known k (by unfold lastCommand at hk ⊢; rwa [← hs.commanded])
      rw [← hs.desired] at this
      cases k <;> exact this
    · have hc' : w.Ready c := (hse.ready c).1 hc
      have hk' : w.Desired k := (hs.desired k).1 (by cases k <;> exact hk)
      rcases hi.covered c hc' k hk' with he | ⟨u, hu, huo, huk⟩
      · exact .inl (hs.sent.mono he)
      · by_cases hue : u = ⟨owner, some (g :: rest)⟩
        · subst hue
          cases k with
          | quote symbol => exact huk.elim
          | bar symbol timeframe =>
            obtain ⟨g', hg', htf, hsym⟩ := huk
            rcases List.mem_cons.1 hg' with rfl | hg'
            · -- the key goes out with this round
              refine .inl (hs.sent.reached hc'.delivers ?_)
              exact List.mem_map.2 ⟨symbol, hsym, by rw [htf]⟩
            · exact .inr ⟨_, mem_set_self _ ht, huo, g', hg', htf, hsym⟩
        · exact .inr ⟨u, mem_set_of_ne _ ht hu hue, huo, huk⟩

/-! ## User commands and hellos -/

theorem userStep_inv {w w' : FeedWorld} (hi : Inv w) {k : FeedKey} {v : Bool} (h : UserStep w w' k v) : Inv w' where
  toWires := h.toSameEnds.wires hi.toWires
  known k' hk' := by
    rw [h.desired]
    unfold lastCommand at hk'
    rw [h.commanded, lastWrite_append, lastWrite_singleton] at hk'
    by_cases hkk : k' = k
    · rw [if_pos hkk.symm] at hk'
      rw [if_pos hkk]
      simpa using hk'
    · rw [if_neg (Ne.symm hkk), Option.none_or] at hk'
      rw [if_neg hkk]
      exact hi.known k' hk'
  covered c hc k' hk' := by
    have hc' : w.Ready c := (h.toSameEnds.ready c).1 hc
    have hsent := h.sent k'
    rw [if_pos hc'.delivers] at hsent
    by_cases hkk : k' = k
    · have hv : v = true := by
        have := (h.desired k').1 hk'
        rwa [if_pos hkk] at this
      left
      rw [hsent]
      exact overwrite_of_lastWrite (by rw [lastWrite_singleton, if_pos hkk.symm, hv])
    · have hd : w.Desired k' := by
        have := (h.desired k').1 hk'
        rwa [if_neg hkk] at this
      rw [hsent, overwrite_of_not_mem (by simpa using hkk)]
      apply (hi.covered c hc' k' hd).imp id
      rintro ⟨t, ht, hto⟩
      exact ⟨t, h.tasks ▸ ht, hto⟩

/-- The quote replay reaches every wanted symbol. -/
theorem ReplayStep.quote_active {w w' : FeedWorld} {owner : Option ℕ} (h : ReplayStep w w' owner) (hd : w.Delivers)
    {symbol : String} (hk : w.Desired (.quote symbol)) : w'.effective (.quote symbol) = true := by
  refine h.sent.reached hd (List.mem_map_of_mem ?_)
  rw [mem_sortedSymbols]
  exact mem_setUnion.2 (.inl hk)

theorem ReplayStep.owed_mono {w w' : FeedWorld} {owner : Option ℕ} (h : ReplayStep w w' owner) {c : ℕ} {k : FeedKey}
    (ho : w.Owed c k) : w'.Owed c k := by
  obtain ⟨t, ht, hto⟩ := ho
  by_cases hg : w.gateway = none
  · exact ⟨t, h.tasks_none hg ▸ ht, hto⟩
  · exact ⟨t, h.tasks hg ▸ List.mem_append_left _ ht, hto⟩

/-- A replay keeps the invariant, also where it begins on a connection that its hello has just made ready. -/
theorem replayStep_inv {w w' : FeedWorld} {owner : Option ℕ} (h : ReplayStep w w' owner) (hw : Wires w)
    (hknown : ∀ k, w.lastCommand k = some true → w.Desired k)
    (hcov : ∀ c, w.Ready c → owner ≠ some c → ∀ k, w.Desired k → w.effective k = true ∨ w.Owed c k) : Inv w' where
  toWires := h.toSameEnds.wires hw
  known k hk := by
    rw [h.desired]
    apply hknown k
    unfold lastCommand at hk ⊢
    rwa [h.commanded] at hk
  covered c hc k hk := by
    have hc' : w.Ready c := (h.toSameEnds.ready c).1 hc
    have hk' : w.Desired k := (h.desired k).1 hk
    by_cases hown : owner = some c
    · cases k with
      | quote symbol => exact .inl (h.quote_active hc'.delivers hk')
      | bar symbol timeframe =>
        refine .inr ⟨⟨owner, none⟩, ?_, hown, trivial⟩
        rw [h.tasks hc'.gateway]
        exact List.mem_append_right _ (List.mem_singleton_self _)
    · exact (hcov c hc' hown k hk').imp h.sent.mono h.owed_mono

theorem startReplay_inv {w w' : FeedWorld} (hi : Inv w) (h : w.startReplay = some w') : Inv w' := by
  obtain ⟨-, rfl⟩ := startReplay_cases h
  refine replayStep_inv (replayOnHello_replayStep _ none) ⟨hi.unread, hi.fresh⟩ (fun k hk => ?_)
    (fun c hc _ k hk => ?_)
  · have := hi.known k hk
    cases k <;> exact this
  · exact hi.covered c hc k (by cases k <;> exact hk)

theorem receive_inv {w w' : FeedWorld} (hi : Inv w) {c : ℕ} (h : w.receive c = some w') : Inv w' := by
  obtain ⟨hello, rest, hq, hend, hfree, rfl⟩ := receive_cases h
  have hne : (w.links c).adapterEnd ≠ .absent ∧ (w.links c).adapterEnd ≠ .waiting := by
    rcases hend with he | he <;> simp [he]
  refine replayStep_inv (replayOnHello_replayStep _ (some c))
    (wires_of_update hi.toWires rfl rfl hne.1 (fun _ => hne)) (fun k hk => ?_) (fun d hd hdc k hk => ?_)
  · have := hi.known k hk
    cases k <;> exact this
  · -- a connection other than the one of the hello was ready before
    have hdc' : d ≠ c := fun he => hdc (by rw [he])
    obtain ⟨hcon, hconn, hh⟩ := hd
    obtain ⟨g', hg', hs', ho⟩ := connected_eq_some.1 hcon
    simp only [setLink, Function.update_of_ne hdc'] at ho hh
    obtain ⟨g, hg, rfl⟩ := Option.map_eq_some_iff.1 hg'
    have hready : w.Ready d := ⟨connected_eq_some.2 ⟨g, hg, hs', ho⟩, hconn, hh⟩
    have hk' : w.Desired k := by cases k <;> exact hk
    refine (hi.covered d hready k hk').imp (fun he => ?_) id
    have hf : Frame w { w.setLink c { w.links c with toAdapter := rest, helloed := true } with
        subs := w.subs.applyHello hello
        gateway := w.gateway.map FeedGateway.setHello } :=
      frame_of rfl rfl rfl rfl rfl (toService_of_update rfl rfl)
    rw [hf.effective, he]

/-! ## The Service -/

theorem serviceConnect_inv {w w' : FeedWorld} (hi : Inv w) (h : w.serviceConnect = some w') : Inv w' := by
  have hf := serviceConnect_frame h
  unfold serviceConnect at h
  split at h
  · cases h
    refine inv_of_not_ready hi hf.commanded hf.desired ⟨fun c hc => ?_, fun c hc => ?_⟩ (fun c hc => ?_)
    · by_cases hcn : c = w.nextLink
      · subst hcn
        simp [setLink] at hc
      · simp only [setLink, Function.update_of_ne hcn] at hc ⊢
        exact hi.unread c hc
    · have hcn : w.nextLink < c := hc
      simp only [setLink, Function.update_of_ne (Nat.ne_of_gt hcn)]
      exact hi.fresh c (Nat.le_of_lt hcn)
    · -- its hello is still on its way
      have hcn : w.nextLink = c := Option.some.inj hc.2.1
      have := hc.2.2
      subst hcn
      simp [setLink] at this
  · cases h

theorem serviceReceive_inv {w w' : FeedWorld} (hi : Inv w) (h : w.serviceReceive = some w') : Inv w' := by
  have hf := serviceReceive_frame h
  unfold serviceReceive at h
  split at h
  · cases h
  · rename_i c hconn
    split at h
    · cases h
    · rename_i cmd rest hq
      cases h
      have hs := sameEnds_setLink (w := { w with service := (w.service.nt5HandleWireMessage cmd).1 }) (c := c)
        (l := { w.links c with
          toService := rest
          toAdapter := (w.links c).toAdapter ++ if (w.service.nt5HandleWireMessage cmd).2 then
            [hello { w with service := (w.service.nt5HandleWireMessage cmd).1 }] else [] }) rfl rfl
      have hse : SameEnds w _ := ⟨hs.connected, hs.conn, hs.nextLink, hs.adapterEnd, hs.helloed⟩
      exact inv_of_frame hi hf (hse.wires hi.toWires) (fun d hd => (hse.ready d).1 hd) (fun d k _ _ ho => ho)

theorem serviceDisconnect_inv {w w' : FeedWorld} (hi : Inv w) {notified : Bool}
    (h : w.serviceDisconnect notified = some w') : Inv w' := by
  obtain ⟨-, rfl⟩ := serviceDisconnect_cases h
  refine inv_of_not_ready hi rfl (fun k => by cases k <;> rfl) ⟨hi.unread, hi.fresh⟩ (fun c hc => ?_)
  cases hc.2.1

theorem serviceRestart_inv {w : FeedWorld} (hi : Inv w) (session : String) (symbols : List String)
    (bars : List BarKey) : Inv (w.serviceRestart session symbols bars) := by
  refine inv_of_not_ready hi rfl (fun k => by cases k <;> rfl) ⟨hi.unread, hi.fresh⟩ (fun c hc => ?_)
  cases hc.2.1

/-- **The invariant is kept** by every step. -/
theorem step_inv (w : FeedWorld) (e : FeedEvent) (w' : FeedWorld) (hi : Inv w) (h : w.step e = some w') : Inv w' := by
  cases e with
  | subscribeQuoteTicks s => cases h; exact userStep_inv hi (subscribeQuoteTicks_userStep w s)
  | unsubscribeQuoteTicks s => cases h; exact userStep_inv hi (unsubscribeQuoteTicks_userStep w s)
  | subscribeBars s tf => cases h; exact userStep_inv hi (subscribeBars_userStep w s tf)
  | unsubscribeBars s tf => cases h; exact userStep_inv hi (unsubscribeBars_userStep w s tf)
  | gatewayStart => exact gatewayStart_inv hi h
  | gatewayStop => exact gatewayStop_inv hi h
  | gatewayStopped => exact gatewayStopped_inv hi h
  | startReplay => exact startReplay_inv hi h
  | startAbort =>
    cases h
    exact inv_of_frame hi (frame_of rfl rfl rfl rfl rfl (fun _ => rfl)) ⟨hi.unread, hi.fresh⟩ (fun _ hc => hc)
      (fun _ _ _ _ ho => ho)
  | replace c => exact replace_inv hi h
  | accept c => exact accept_inv hi h
  | receive c => exact receive_inv hi h
  | close c => exact close_inv hi h
  | handlerEnd c => exact handlerEnd_inv hi h
  | captureBars i => exact captureBars_inv hi h
  | replayBars i => exact replayBars_inv hi h
  | abortReplay i => exact abortReplay_inv hi h
  | serviceConnect => exact serviceConnect_inv hi h
  | serviceReceive => exact serviceReceive_inv hi h
  | serviceDisconnect notified => exact serviceDisconnect_inv hi h
  | serviceRestart session symbols bars => cases h; exact serviceRestart_inv hi session symbols bars

/-- In a quiescent state of an open connection the Service has what is on its way to it. -/
theorem Quiescent.active {w : FeedWorld} {c : ℕ} (hq : w.Quiescent c) (hc : w.conn = some c) (k : FeedKey) :
    w.effective k = w.service.active k := by
  unfold effective
  rw [hc]
  simp [hq.2.1]

/-- **No lost subscription**: in every reachable quiescent state in which the feed connection is open and the adapter
has processed its hello, every key that the user subscribed last is active at the Service. -/
theorem no_lost_subscription {session : String} {symbols : List String} {bars : List BarKey} {es : List FeedEvent}
    {w : FeedWorld} (h : run step (init session symbols bars) es = some w) {c : ℕ} (hr : w.Ready c)
    (hq : w.Quiescent c) {k : FeedKey} (hk : lastWrite (es.filterMap FeedEvent.userCommand) k = some true) :
    w.service.active k = true := by
  have hi : Inv w := run_inv step_inv (init_inv session symbols bars) h
  have hlast : w.lastCommand k = some true := by
    unfold lastCommand
    rw [run_commanded h, hk]
  rw [← hq.active hr.2.1]
  rcases hi.covered c hr k (hi.known k hlast) with he | ⟨t, ht, -⟩
  · exact he
  · rw [hq.2.2] at ht
    cases ht

/-- A symbol and its bars that were subscribed before the Service connected, after the hellos have gone back and
forth. -/
theorem no_lost_subscription_before_connect :
    ∃ w, run step (init "nt5-1" [] []) [.subscribeQuoteTicks "EURUSD", .subscribeBars "EURUSD" .M5, .gatewayStart,
      .serviceConnect, .accept 0, .receive 0, .captureBars 0, .replayBars 0, .replayBars 0, .serviceReceive,
      .serviceReceive, .receive 0, .captureBars 0, .replayBars 0, .replayBars 0, .receive 0, .captureBars 0,
      .replayBars 0, .replayBars 0, .serviceReceive, .serviceReceive, .serviceReceive, .serviceReceive] = some w ∧
        w.service.active (.quote "EURUSD") = true ∧ w.service.active (.bar "EURUSD" .M5) = true := by
  obtain ⟨w, hw, hr, hq⟩ : ∃ w, run step (init "nt5-1" [] []) [.subscribeQuoteTicks "EURUSD",
      .subscribeBars "EURUSD" .M5, .gatewayStart, .serviceConnect, .accept 0, .receive 0, .captureBars 0,
      .replayBars 0, .replayBars 0, .serviceReceive, .serviceReceive, .receive 0, .captureBars 0, .replayBars 0,
      .replayBars 0, .receive 0, .captureBars 0, .replayBars 0, .replayBars 0, .serviceReceive, .serviceReceive,
      .serviceReceive, .serviceReceive] = some w ∧ w.Ready 0 ∧ w.Quiescent 0 := ⟨_, rfl, by decide, by decide⟩
  exact ⟨w, hw, no_lost_subscription hw hr hq (by decide), no_lost_subscription hw hr hq (by decide)⟩

end FeedWorld

end NautilusMt5
