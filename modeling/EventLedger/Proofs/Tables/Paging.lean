import EventLedger.Proofs.Json.Records
import EventLedger.Proofs.Tables.Calm
import EventLedger.Proofs.Tables.UnderLock

/-!
# Reading pages beside transactions that are open

A page has the first visible rows from its start on.  Since the numbers that become visible later
exceed all that are visible, the next page can start right after the last one of these rows: nothing
will turn up behind it.

## Main definitions

* `SharedServer.Settled n` — nothing will become visible below `n`.
* `SharedServer.Covers start next es` — the events `es` are all there will be from one number up to
  another one.

## Main results

* `SharedServer.Covers.follows` — **what was covered stays covered.**
* `SharedServer.Inv.covers_take` — the first visible rows cover what is before the next page.
* `SharedServer.keeps_page` — **a page covers what is between its start and the next page.**
-/

namespace EventLedger

open EventLog (nextOf)

/-- An event has the global number of its row. -/
theorem EventRow.global_of_decode {r : EventRow} {e : CommittedEvent} (h : r.decode = .ok e) :
    (e.globalSequence : Int) = r.global := by
  obtain ⟨metadata, -, h⟩ := exists_of_bind_eq_ok h
  obtain ⟨id, -, h⟩ := exists_of_bind_eq_ok h
  obtain ⟨sequence, -, h⟩ := exists_of_bind_eq_ok h
  obtain ⟨globalSequence, hglobal, h⟩ := exists_of_bind_eq_ok h
  obtain ⟨version, -, h⟩ := exists_of_bind_eq_ok h
  obtain rfl := Except.ok.inj h
  unfold ofLong at hglobal
  split at hglobal
  next hpos =>
    obtain rfl := Except.ok.inj hglobal
    exact Int.toNat_of_nonneg hpos
  next => cases hglobal

theorem EventRow.map_global_of_mapM : ∀ {rows : List EventRow} {es : List CommittedEvent},
    rows.mapM EventRow.decode = .ok es →
      es.map (fun e => (e.globalSequence : Int)) = rows.map (·.global)
  | [], es, h => by
    obtain rfl := Except.ok.inj h
    rfl
  | r :: rows, es, h => by
    rw [List.mapM_cons] at h
    obtain ⟨e, he, h⟩ := exists_of_bind_eq_ok h
    obtain ⟨rest, hrest, h⟩ := exists_of_bind_eq_ok h
    obtain rfl := Except.ok.inj h
    exact congrArg₂ List.cons (global_of_decode he) (map_global_of_mapM hrest)

namespace SharedServer

open TableStorage

variable {w w' : SharedServer} {i : Nat}

/-- Nothing will become visible below a number. -/
def Settled (w : SharedServer) (n : Int) : Prop :=
  n ≤ w.server.nextGlobal ∧ ∀ i g, w.drawn i g → n ≤ g

/-- The events have all numbers that are visible between two numbers, and below the second one
nothing will become visible if it is not the first one. -/
structure Covers (w : SharedServer) (start next : Nat) (es : List CommittedEvent) : Prop where
  le : start ≤ next
  settled : next = start ∨ w.Settled next
  events : ∀ r ∈ w.visible, (start : Int) ≤ r.global → r.global < (next : Int) →
    ∃ e ∈ es, (e.globalSequence : Int) = r.global

theorem Settled.follows {n : Int} (h : w.Settled n) (hf : w.Follows w') : w'.Settled n :=
  ⟨h.1.trans hf.next, fun i g hg => (hf.drawn hg).elim (h.2 i g) h.1.trans⟩

/-- What becomes visible later is not below. -/
theorem Settled.le_of_mem {n : Int} (h : w.Settled n) (hf : w.Follows w') {r : EventRow}
    (hr : r ∈ w'.visible) : r ∈ w.visible ∨ n ≤ r.global := by
  rcases hf.visible hr with hr | ⟨i, hg⟩ | hle
  · exact .inl hr
  · exact .inr (h.2 i _ hg)
  · exact .inr (h.1.trans hle)

/-- The number after a visible one is settled. -/
theorem Inv.settled (hw : w.Inv) {r : EventRow} (hr : r ∈ w.visible) : w.Settled (r.global + 1) :=
  ⟨hw.gone hr, fun _ _ hg => hw.above hg hr⟩

variable {start mid next : Nat} {es es' : List CommittedEvent}

theorem Covers.refl (w : SharedServer) (start : Nat) : w.Covers start start [] :=
  ⟨Nat.le_refl start, .inl rfl, fun _ _ hlow hhigh => absurd hlow (Int.not_le.2 hhigh)⟩

/-- What becomes visible later has not been passed. -/
theorem Covers.le_of_mem (h : w.Covers start next es) (hf : w.Follows w') {r : EventRow}
    (hr : r ∈ w'.visible) (hlow : (start : Int) ≤ r.global) :
    r ∈ w.visible ∨ (next : Int) ≤ r.global := by
  rcases h.settled with rfl | hsettled
  · exact .inr hlow
  · exact hsettled.le_of_mem hf hr

/-- **What was covered stays covered.** -/
theorem Covers.follows (h : w.Covers start next es) (hf : w.Follows w') :
    w'.Covers start next es := by
  refine ⟨h.le, h.settled.imp_right (·.follows hf), ?_⟩
  intro r hr hlow hhigh
  rcases h.le_of_mem hf hr hlow with hr | hle
  · exact h.events r hr hlow hhigh
  · exact absurd hle (Int.not_le.2 hhigh)

theorem Covers.append (h : w.Covers start mid es) (h' : w.Covers mid next es') :
    w.Covers start next (es ++ es') := by
  refine ⟨h.le.trans h'.le, ?_, ?_⟩
  · rcases h'.settled with rfl | hsettled
    · exact h.settled
    · exact .inr hsettled
  · intro r hr hlow hhigh
    rcases lt_or_ge r.global (mid : Int) with hbefore | hafter
    · obtain ⟨e, he, heq⟩ := h.events r hr hlow hbefore
      exact ⟨e, List.mem_append_left _ he, heq⟩
    · obtain ⟨e, he, heq⟩ := h'.events r hr hafter hhigh
      exact ⟨e, List.mem_append_right _ he, heq⟩

/-! ### What a page shows -/

/-- The visible rows are selected in their order. -/
theorem Inv.byGlobal_eq (hw : w.Inv) (p : EventRow → Bool) :
    w.server.byGlobal p = w.visible.filter p := by
  refine List.mergeSort_of_pairwise ((hw.visible.filter p).imp ?_)
  intro r r' hlt
  exact decide_eq_true (Int.le_of_lt hlt)

/-- **The first visible rows cover what is before the next page.** -/
theorem Inv.covers_take (hw : w.Inv) (size : Nat)
    (hes : es.map (fun e => (e.globalSequence : Int)) =
      ((w.visible.filter fun r => (start : Int) ≤ r.global).take size).map (·.global)) :
    w.Covers start (nextOf es start) es := by
  have hfrom := hw.visible.filter fun r => (start : Int) ≤ r.global
  have hmem : ∀ {r}, r ∈ w.visible.filter (fun r => (start : Int) ≤ r.global) ↔
      r ∈ w.visible ∧ (start : Int) ≤ r.global := by
    intro r
    rw [List.mem_filter, decide_eq_true_eq]
  generalize w.visible.filter (fun r => (start : Int) ≤ r.global) = rows at hes hfrom hmem
  rw [← List.take_append_drop size rows, List.pairwise_append] at hfrom
  -- where the next page starts
  have hnext : nextOf es start = start ∨
      ∃ r ∈ rows.take size, (nextOf es start : Int) = r.global + 1 := by
    refine (Page.nextOf_cases es start).imp_right ?_
    rintro ⟨e, he, heq⟩
    have hglobal := List.mem_map_of_mem (f := fun e => (e.globalSequence : Int)) he
    rw [hes] at hglobal
    obtain ⟨r, hr, hrglobal⟩ := List.mem_map.1 hglobal
    exact ⟨r, hr, by rw [heq, hrglobal]; rfl⟩
  constructor
  case le =>
    rcases hnext with heq | ⟨r, hr, heq⟩
    · exact heq.ge
    · have := (hmem.1 (List.mem_of_mem_take hr)).2
      omega
  case settled =>
    refine hnext.imp_right ?_
    rintro ⟨r, hr, heq⟩
    rw [heq]
    exact hw.settled (hmem.1 (List.mem_of_mem_take hr)).1
  case events =>
    intro r hr hlow hhigh
    have hrows := hmem.2 ⟨hr, hlow⟩
    rw [← List.take_append_drop size rows] at hrows
    rcases List.mem_append.1 hrows with htaken | hleft
    · have hglobal := List.mem_map_of_mem (f := EventRow.global) htaken
      rw [← hes] at hglobal
      obtain ⟨e, he, heq⟩ := List.mem_map.1 hglobal
      exact ⟨e, he, heq⟩
    · -- a row that is left has a greater number than those that are taken
      rcases hnext with heq | ⟨r', hr', heq⟩
      · omega
      · have := hfrom.2.2 r' hr' r hleft
        omega

/-- Selecting rows leaves the server as it is. -/
theorem Answers.of_selectGlobal {low limit : Int} {rows : List EventRow}
    (h : w.Answers i (.selectGlobal low limit) (.ok rows) w') :
    w' = w ∧ rows = (w.server.byGlobal fun r => low ≤ r.global).take limit.toNat := by
  cases h with
  | @executed s h hw =>
    obtain ⟨-, -, hdone⟩ := h
    have hperform : w.server.perform i (.selectGlobal low limit) = (.ok rows, s) := by
      refine hdone.elim id fun hexecute => ?_
      unfold Server.execute at hexecute
      split at hexecute
      next => cases hexecute
      next => exact hexecute
    obtain ⟨hrows, rfl⟩ := Prod.mk.inj hperform
    exact ⟨hw, (Except.ok.inj hrows).symm⟩
  | lost ha => cases ha
  | failed ha => cases ha
  | drew ha => cases ha

theorem keeps_toLong (n : Nat) (what : String) (w : SharedServer) :
    Call.Keeps (discipline i) (fun _ r => ∀ low, r = .ok low → low = (n : Int))
      (ledger (toLong n what)) w := by
  unfold toLong
  split
  · rintro low ⟨⟩
    rfl
  · rintro low ⟨⟩

/-- Selecting the rows of a page. -/
theorem keeps_selectGlobal (start size : Nat) (w : SharedServer) :
    Call.Keeps (discipline i) (fun w r => ∀ rows, r = .ok rows →
        rows = (w.visible.filter fun r => (start : Int) ≤ r.global).take size)
      (run (.selectGlobal start size)) w := by
  have hasks : ∀ w : SharedServer, (discipline i).asks w (.inner (.selectGlobal start size)) := by
    rintro w ds ⟨⟩
  intro w₁ _ hw₁
  refine ⟨hasks w₁, fun a w₂ ha => ?_⟩
  cases a with
  | error f => rintro rows ⟨⟩
  | ok rows =>
    obtain ⟨rfl, hrows⟩ := Answers.of_selectGlobal ha
    rintro _ ⟨⟩
    rw [hrows, hw₁.byGlobal_eq, Int.toNat_natCast]

/-- One attempt to read a page. -/
theorem keeps_tryPage (start size : Nat) (hw : w.Inv) :
    Call.Keeps (discipline i) (fun w r => ∀ es, r = .ok es → w.Covers start (nextOf es start) es)
      (tryPage start size) w := by
  have hfails : ∀ {w : SharedServer} {e : TableError} {es : List CommittedEvent},
      (.error e : Except TableError (List CommittedEvent)) = .ok es →
        w.Covers start (nextOf es start) es := by
    rintro w e es ⟨⟩
  refine (keeps_toLong start "global sequence number" w).bind hw ?_ fun _ _ _ _ _ => hfails
  intro w₁ low hw₁ hlow
  obtain rfl := hlow low rfl
  refine (keeps_selectGlobal start size w₁).bind hw₁ ?_ fun _ _ _ _ _ => hfails
  intro w₂ rows hw₂ hrows
  cases hdecoded : rows.mapM EventRow.decode with
  | error e => exact fun _ => hfails
  | ok es =>
    rintro _ ⟨⟩
    refine hw₂.covers_take size ?_
    rw [← hrows rows rfl]
    exact EventRow.map_global_of_mapM hdecoded

/-- **A page covers what is between its start and the next page.** -/
theorem keeps_page (strategy : RetryStrategy) (start size : Nat) (hw : w.Inv) :
    Call.Keeps (discipline i) (fun w r => ∀ p, r = .ok p → w.Covers start p.next p.events)
      (TableStorage.page strategy start size) w := by
  by_cases hzero : size = 0
  · subst hzero
    rintro p ⟨⟩
  · by_cases hsize : size ≤ greatestLong
    · have hread : Call.Keeps (discipline i)
          (fun w r => ∀ es, r = .ok es → w.Covers start (nextOf es start) es)
          (retryTransient strategy true (tryPage start size)) w :=
        keeps_retry strategy true (by rintro w e es ⟨⟩) (fun w hw => keeps_tryPage start size hw) hw
      rw [EventLog.page_eq hzero hsize]
      refine hread.bind hw ?_ ?_
      · intro w₁ es _ hes
        rintro _ ⟨⟩
        exact hes es rfl
      · rintro w₁ e - - p ⟨⟩
    · unfold TableStorage.page
      rw [if_neg hzero, if_pos (Nat.lt_of_not_le hsize)]
      rintro p ⟨⟩

/-! ### All requests -/

/-- **Every storage request inserts rows under the lock only.** -/
theorem keeps_serve (strategy : RetryStrategy) (q : StorageRequest) (hw : w.Inv) :
    Call.Keeps (discipline i) (fun _ _ => True) (TableStorage.serve strategy q) w := by
  have hretry : ∀ {α : Type} {operation : TableCall α} (heedsToken : Bool),
      Call.Asks InsertsNone operation → Call.Keeps (discipline i) (fun _ _ => True)
        (retryTransient strategy heedsToken operation) w :=
    fun heedsToken hasks =>
      keeps_retry strategy heedsToken (by simp) (fun w _ => keeps_of_asks hasks i w) hw
  cases q with
  | commit key b ps =>
    refine (keeps_of_asks (.ofExcept _) i w).bind hw (fun w₁ _ hw₁ _ => ?_) (by simp)
    refine (keeps_of_asks (.ofExcept _) i w₁).bind hw₁ (fun w₂ drafts hw₂ _ => ?_) (by simp)
    exact keeps_retry strategy false (by simp) (fun w hw => keeps_tryCommit hw) hw₂
  | load key start =>
    exact hretry true ((Call.Asks.ofExcept _).bind fun low =>
      (asks_run (q := .selectStream key low) (by simp)).bind fun rows => .ofExcept _)
  | page start size => exact (keeps_page strategy start size hw).imp (by simp) hw
  | delete key => exact hretry true (asks_run (q := .deleteEvents key) (by simp))
  | loadSnapshot key =>
    refine hretry true ((asks_run (q := .selectSnapshot key) (by simp)).bind fun row? => ?_)
    cases row? with
    | none => trivial
    | some row => exact (Call.Asks.ofExcept _).bind fun _ => trivial
  | storeSnapshot s =>
    exact hretry false ((Call.Asks.ofExcept _).bind fun sequence => asks_run (by simp))
  | deleteSnapshots key => exact hretry true (asks_run (q := .deleteSnapshots key) (by simp))

end SharedServer

end EventLedger
