import EventLedger.Proofs.EventLog.Bookkeeping
import EventLedger.Proofs.EventLog.Pages

/-!
# Reading everything page by page

A reader goes through all events of a storage page by page, and asks for each page from where the
one before it ended.  Between two pages other clients store batches and delete streams, also the
stream of the very event that the reader stopped at.  The reader gets every event that is there when
it passes its number, and none twice, because an event that comes later has a number that no page
has reached.

## Main definitions

* `Scan`, `Scan.step`, `Scan.run` — the reader beside the other clients.
* `Scan.Complete start s` — the reader, which began at `start`, has skipped and repeated nothing.
* `Scan.Inv start s` — what every step keeps.

## Main results

* `Scan.Inv.step` — one step, of the reader or of another client.
* `Scan.complete_of_run` — **a reader skips nothing and repeats nothing**, in every run.
-/

namespace EventLedger

/-- A reader that goes through all events of a storage. -/
structure Scan where
  /-- The storage. -/
  storage : MemoryStorage
  /-- Where the reader goes on. -/
  cursor : Nat
  /-- The pages that it was given, oldest first, each with the size that it had asked for. -/
  pages : List (Nat × Page) := []

namespace Scan

/-- What happens next: a request of another client is answered, or the reader asks for a page.  A
client may have cancelled. -/
inductive Move
  | other (cancelled : Bool) (q : StorageRequest)
  | read (cancelled : Bool) (size : Nat)

/-- The reader and its storage after a move.  A refused read leaves the reader where it is. -/
def step (s : Scan) : Move → Scan
  | .other cancelled q => { s with storage := (s.storage.answer cancelled q).2 }
  | .read cancelled size =>
    match (s.storage.answer cancelled (.page s.cursor size)).1 with
    | .ok (page : Page) => { s with cursor := page.next, pages := s.pages ++ [(size, page)] }
    | .error _ => s

/-- The reader and its storage after some moves. -/
def run (s : Scan) (moves : List Move) : Scan := moves.foldl step s

/-- The events that the reader was given, in their order. -/
def received (s : Scan) : List CommittedEvent := s.pages.flatMap (·.2.events)

/-- The event was given to the reader in one page and no other. -/
def GotOnce (s : Scan) (e : CommittedEvent) : Prop :=
  ∃! i : Nat, ∃ p, s.pages[i]? = some p ∧ e ∈ p.2.events

/-- The reader, which began at `start`, has skipped and repeated nothing. -/
structure Complete (start : Nat) (s : Scan) : Prop where
  /-- What it was given ascends, over all pages. -/
  ascending : s.received.Pairwise fun e e' => e.globalSequence < e'.globalSequence
  /-- No page was longer than it had asked for. -/
  bounded : ∀ p ∈ s.pages, p.2.events.length ≤ p.1
  /-- A stored event that it has passed was in one page. -/
  passed : ∀ e ∈ s.storage.events.all, start ≤ e.globalSequence → e.globalSequence < s.cursor →
    s.GotOnce e
  /-- It is given the next page, of whatever positive size. -/
  answered : ∀ size, 0 < size → ∃ page, (s.storage.serve (.page s.cursor size)).1 = .ok page
  /-- If that page is empty, then the reader stays where it is and has been given everything. -/
  ended : ∀ cancelled size (page : Page),
    (s.storage.answer cancelled (.page s.cursor size)).1 = .ok page → page.events = [] →
      page.next = s.cursor ∧ ∀ e ∈ s.storage.events.all, start ≤ e.globalSequence → s.GotOnce e

/-- What every step keeps for a reader that began at `start`. -/
structure Inv (start : Nat) (s : Scan) : Prop where
  coherent : s.storage.events.Coherent
  ascending : s.received.Pairwise fun e e' => e.globalSequence < e'.globalSequence
  bounded : ∀ p ∈ s.pages, p.2.events.length ≤ p.1
  /-- What it was given lies between its start and where it goes on, -/
  within : ∀ e ∈ s.received, e.globalSequence < s.cursor
  /-- and it has everything between the two that is stored. -/
  passed : ∀ e ∈ s.storage.events.all, start ≤ e.globalSequence → e.globalSequence < s.cursor →
    e ∈ s.received
  /-- It has not passed a number that was not given out, unless it began there. -/
  reached : start ≤ s.cursor ∧ (s.cursor = start ∨ s.cursor ≤ s.storage.events.lastGlobal + 1)

variable {start : Nat} {s : Scan} {m : MemoryStorage}

theorem Inv.begin (h : m.events.Coherent) (start : Nat) : Inv start ⟨m, start, []⟩ where
  coherent := h
  ascending := .nil
  bounded := fun _ hp => absurd hp List.not_mem_nil
  within := fun _ he => absurd he List.not_mem_nil
  passed := by
    intro e _ hlow hhigh
    exact absurd hlow (Nat.not_le.2 hhigh)
  reached := ⟨Nat.le_refl start, .inl rfl⟩

/-! ### Steps -/

/-- A request of another client takes nothing from the reader: what is added has a number that the
reader has not passed. -/
theorem Inv.serve (h : s.Inv start) (q : StorageRequest) :
    Inv start { s with storage := (s.storage.serve q).2 } := by
  have hlater := MemoryStorage.later_serve h.coherent q
  refine ⟨MemoryStorage.coherent_serve h.coherent q, h.ascending, h.bounded, h.within, ?_,
    h.reached.1, ?_⟩
  · intro e he hlow hhigh
    rcases hlater.fresh e he with hold | hlt
    · exact h.passed e hold hlow hhigh
    · dsimp only at hhigh
      have := h.reached.2
      omega
  · have := hlater.counter
    exact h.reached.2.imp_right fun hle => by dsimp only; omega

theorem received_append (s : Scan) (c size : Nat) (page : Page) :
    received { s with cursor := c, pages := s.pages ++ [(size, page)] } =
      s.received ++ page.events := by
  simp [received]

/-- The page that the reader is given follows what it was given before. -/
theorem Inv.read (h : s.Inv start) {size : Nat} {page : Page}
    (hp : s.storage.events.page s.cursor size = .ok page) :
    Inv start { s with cursor := page.next, pages := s.pages ++ [(size, page)] } := by
  have hcut := h.coherent.cut_of_page hp
  have hreceived := received_append s page.next size page
  refine ⟨h.coherent, ?_, ?_, ?_, ?_, h.reached.1.trans hcut.le_next, ?_⟩
  · rw [hreceived, List.pairwise_append]
    refine ⟨h.ascending, hcut.ascending, ?_⟩
    intro e he e' he'
    exact (h.within e he).trans_le (hcut.within e' he').2.1
  · intro p hp
    rcases List.mem_append.1 hp with hp | hp
    · exact h.bounded p hp
    · rw [List.mem_singleton.1 hp]
      exact hcut.bounded
  · rw [hreceived]
    intro e he
    rcases List.mem_append.1 he with he | he
    · exact (h.within e he).trans_le hcut.le_next
    · exact (hcut.within e he).2.2
  · rw [hreceived]
    intro e he hlow hhigh
    rcases Nat.lt_or_ge e.globalSequence s.cursor with hbefore | hafter
    · exact List.mem_append_left _ (h.passed e he hlow hbefore)
    · exact List.mem_append_right _ (hcut.passed e he hafter hhigh)
  · rcases hcut.onward with hsame | ⟨e, he, hnext⟩
    · rw [hsame]
      exact h.reached.2
    · have hdrawn := (h.coherent.drawn e (hcut.within e he).1).2
      exact .inr (hnext.trans_le (Nat.succ_le_succ hdrawn))

/-- **One step**, of the reader or of another client. -/
theorem Inv.step (h : s.Inv start) (move : Move) : (s.step move).Inv start := by
  cases move with
  | other cancelled q =>
    rcases s.storage.answer_cases cancelled q with hrefused | hserved
    · rw [Scan.step, hrefused]
      exact h
    · rw [Scan.step, hserved]
      exact h.serve q
  | read cancelled size =>
    rw [Scan.step]
    split
    next page hpage =>
      rcases s.storage.answer_cases cancelled (.page s.cursor size) with hrefused | hserved
      · rw [hrefused] at hpage
        cases hpage
      · rw [hserved] at hpage
        exact h.read hpage
    next => exact h

theorem Inv.run (h : s.Inv start) (moves : List Move) : (s.run moves).Inv start := by
  induction moves generalizing s with
  | nil => exact h
  | cons move moves ih => exact ih (h.step move)

/-! ### What the reader has -/

/-- What ascends over all pages is in one of them only. -/
theorem gotOnce_of_mem
    (h : s.received.Pairwise fun e e' => e.globalSequence < e'.globalSequence) {e : CommittedEvent}
    (he : e ∈ s.received) : s.GotOnce e := by
  obtain ⟨p, hp, hep⟩ := List.mem_flatMap.1 he
  obtain ⟨i, hi⟩ := List.getElem?_of_mem hp
  refine ⟨i, ⟨p, hi, hep⟩, ?_⟩
  rintro j ⟨p', hj, hep'⟩
  have hpages := List.pairwise_iff_getElem.1 (List.pairwise_flatMap.1 h).2
  obtain ⟨hilt, rfl⟩ := List.getElem?_eq_some_iff.1 hi
  obtain ⟨hjlt, rfl⟩ := List.getElem?_eq_some_iff.1 hj
  rcases Nat.lt_trichotomy j i with hlt | heq | hgt
  · exact absurd (hpages j i hjlt hilt hlt e hep' e hep) (Nat.lt_irrefl _)
  · exact heq
  · exact absurd (hpages i j hilt hjlt hgt e hep e hep') (Nat.lt_irrefl _)

/-- **A reader skips nothing and repeats nothing**, wherever it begins, whatever sizes it asks for
and whatever the other clients do meanwhile. -/
theorem complete_of_run (hm : m.Reachable) (start : Nat) (moves : List Move) :
    (run ⟨m, start, []⟩ moves).Complete start := by
  have h := (Inv.begin hm.coherent start).run moves
  generalize run ⟨m, start, []⟩ moves = s at h
  constructor
  case ascending => exact h.ascending
  case bounded => exact h.bounded
  case passed =>
    intro e he hlow hhigh
    exact gotOnce_of_mem h.ascending (h.passed e he hlow hhigh)
  case answered =>
    intro size hpos
    exact ⟨_, h.coherent.page_eq s.cursor (Nat.ne_of_gt hpos)⟩
  case ended =>
    intro cancelled size page hpage hnil
    rcases s.storage.answer_cases cancelled (.page s.cursor size) with hrefused | hserved
    · rw [hrefused] at hpage
      cases hpage
    · rw [hserved] at hpage
      have hcut := h.coherent.cut_of_page hpage
      refine ⟨hcut.next_of_nil hnil, ?_⟩
      intro e he hlow
      exact gotOnce_of_mem h.ascending (h.passed e he hlow (hcut.ended hnil e he))

/-- A reader stops within a batch, whose stream is deleted before it goes on; meanwhile the places of
the batch are taken anew. -/
def overPurge : Scan :=
  run ⟨MemoryStorage.run {} MemoryStorage.namesakes, 2, []⟩
    [.read false 1, .other false (.delete MemoryStorage.sampleKey),
      .other false (.commit MemoryStorage.sampleKey (.ofNat 5) (MemoryStorage.sampleBatch [1, 2])),
      .read true 3, .read false 2]

/-- What was stored anew is given to the reader, of what was deleted the first event only. -/
theorem complete_of_overPurge :
    (MemoryStorage.run {} MemoryStorage.namesakes).Reachable ∧
      overPurge.received.map (·.globalSequence) = [2, 3, 5] ∧
      overPurge.storage.events.all.map (·.globalSequence) = [3, 5, 6] ∧
      ∀ e ∈ overPurge.storage.events.all, e.globalSequence < 6 → overPurge.GotOnce e := by
  have hreach : (MemoryStorage.run {} MemoryStorage.namesakes).Reachable := ⟨_, rfl⟩
  have hcomplete : overPurge.Complete 2 := complete_of_run hreach 2 _
  have hcursor : overPurge.cursor = 6 := by decide +kernel
  have hlow : ∀ e ∈ overPurge.storage.events.all, 2 ≤ e.globalSequence := by decide +kernel
  refine ⟨hreach, by decide +kernel, by decide +kernel, ?_⟩
  intro e he hlt
  exact hcomplete.passed e he (hlow e he) (hlt.trans_eq hcursor.symm)

end Scan

end EventLedger
