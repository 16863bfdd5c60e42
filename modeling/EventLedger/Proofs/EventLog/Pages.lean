import EventLedger.Proofs.EventLog.Coherence

/-!
# Pages

A page is cut out of a list of events in the order of their global numbers: it has the first events
from its start on, and the next page starts right after the last of them.

## Main definitions

* `EventLog.nextOf es start` — where a scan goes on after the events of a page.
* `Page.Cut all start size p` — `p` is cut out of the events `all`.

## Main results

* `Page.cut_take` — taking the first events from the start on cuts out a page.
* `EventLog.Coherent.page_eq`, `EventLog.Coherent.cut_of_page` — reading a page cuts it out of all
  events.
* `EventLog.Coherent.filter_eq_page_append` — the events from a number on are those of a page and
  those from its end on.
-/

namespace EventLedger

/-- Where a scan goes on after the events of a page that begins at `start`. -/
def EventLog.nextOf (es : List CommittedEvent) (start : Nat) : Nat :=
  (es.getLast?.map (·.globalSequence + 1)).getD start

namespace Page

/-- The page is cut out of the events `all`, with at most `size` events from the number `start` on.
-/
structure Cut (all : List CommittedEvent) (start size : Nat) (p : Page) : Prop where
  bounded : p.events.length ≤ size
  ascending : p.events.Pairwise fun e e' => e.globalSequence < e'.globalSequence
  /-- Its events lie between its start and the start of the next page, -/
  within : ∀ e ∈ p.events, e ∈ all ∧ start ≤ e.globalSequence ∧ e.globalSequence < p.next
  /-- and it has all events between the two. -/
  passed : ∀ e ∈ all, start ≤ e.globalSequence → e.globalSequence < p.next → e ∈ p.events
  /-- The next page starts right after an event, or where this one does. -/
  onward : p.next = start ∨ ∃ e ∈ p.events, p.next = e.globalSequence + 1
  /-- The page is empty at the end only. -/
  ended : p.events = [] → ∀ e ∈ all, e.globalSequence < start

variable {all : List CommittedEvent} {start size : Nat} {p : Page}

/-- Of ascending events, a prefix has those up to its last one. -/
theorem mem_iff_lt_nextOf {es rest : List CommittedEvent}
    (h : (es ++ rest).Pairwise fun e e' => e.globalSequence < e'.globalSequence)
    (hstart : ∀ e ∈ es ++ rest, start ≤ e.globalSequence) {e : CommittedEvent}
    (he : e ∈ es ++ rest) : e ∈ es ↔ e.globalSequence < EventLog.nextOf es start := by
  unfold EventLog.nextOf
  rcases es.eq_nil_or_concat with rfl | ⟨es, last, rfl⟩
  · simpa using hstart e he
  · rw [List.concat_eq_append, List.pairwise_append, List.pairwise_append] at h
    obtain ⟨⟨-, -, hbefore⟩, -, hafter⟩ := h
    rw [List.concat_eq_append, List.getLast?_concat, Option.map_some, Option.getD_some,
      Nat.lt_succ_iff]
    constructor
    · intro hmem
      rcases List.mem_append.1 hmem with hmem | hmem
      · exact Nat.le_of_lt (hbefore e hmem last (List.mem_singleton_self last))
      · rw [List.mem_singleton.1 hmem]
    · intro hle
      rcases List.mem_append.1 he with hmem | hmem
      · rwa [List.concat_eq_append] at hmem
      · have := hafter last (List.mem_append_right es (List.mem_singleton_self last)) e hmem
        omega

theorem nextOf_cases (es : List CommittedEvent) (start : Nat) :
    EventLog.nextOf es start = start ∨
      ∃ e ∈ es, EventLog.nextOf es start = e.globalSequence + 1 := by
  unfold EventLog.nextOf
  cases hlast : es.getLast? with
  | none => exact .inl rfl
  | some e => exact .inr ⟨e, List.mem_of_getLast? hlast, rfl⟩

/-- A page does not lead back. -/
theorem le_nextOf {es : List CommittedEvent} (h : ∀ e ∈ es, start ≤ e.globalSequence) :
    start ≤ EventLog.nextOf es start := by
  rcases nextOf_cases es start with heq | ⟨e, he, heq⟩
  · exact heq.ge
  · exact (h e he).trans (heq ▸ Nat.le_succ e.globalSequence)

/-- Of ascending events, those from the end of a prefix on are the rest. -/
theorem filter_nextOf {es rest : List CommittedEvent}
    (h : (es ++ rest).Pairwise fun e e' => e.globalSequence < e'.globalSequence)
    (hstart : ∀ e ∈ es ++ rest, start ≤ e.globalSequence) :
    (es ++ rest).filter (EventLog.nextOf es start ≤ ·.globalSequence) = rest := by
  have hes : es.filter (EventLog.nextOf es start ≤ ·.globalSequence) = [] := by
    rw [List.filter_eq_nil_iff]
    intro e he
    rw [decide_eq_true_eq, Nat.not_le]
    exact (mem_iff_lt_nextOf h hstart (List.mem_append_left rest he)).1 he
  have hrest : rest.filter (EventLog.nextOf es start ≤ ·.globalSequence) = rest := by
    rw [List.filter_eq_self]
    intro e he
    rw [decide_eq_true_eq, ← Nat.not_lt]
    intro hlt
    -- an event is not in both parts of an ascending list
    have hin := (mem_iff_lt_nextOf h hstart (List.mem_append_right es he)).2 hlt
    exact Nat.lt_irrefl _ ((List.pairwise_append.1 h).2.2 e hin e he)
  rw [List.filter_append, hes, hrest, List.nil_append]

/-- What begins later is cut out of what begins earlier. -/
theorem filter_filter_of_le (all : List CommittedEvent) {start' : Nat} (h : start ≤ start') :
    (all.filter (start ≤ ·.globalSequence)).filter (start' ≤ ·.globalSequence) =
      all.filter (start' ≤ ·.globalSequence) := by
  rw [List.filter_filter]
  refine List.filter_congr fun e _ => ?_
  rw [Bool.and_eq_left_iff_imp, decide_eq_true_eq, decide_eq_true_eq]
  exact h.trans

/-- **Taking the first events from the start on cuts out a page.** -/
theorem cut_take (h : all.Pairwise fun e e' => e.globalSequence < e'.globalSequence)
    (hsize : size ≠ 0) :
    Cut all start size ⟨(all.filter (start ≤ ·.globalSequence)).take size,
      EventLog.nextOf ((all.filter (start ≤ ·.globalSequence)).take size) start⟩ := by
  have hmem : ∀ {e}, e ∈ all.filter (start ≤ ·.globalSequence) ↔
      e ∈ all ∧ start ≤ e.globalSequence := by
    intro e
    rw [List.mem_filter, decide_eq_true_eq]
  have hfrom := h.filter (start ≤ ·.globalSequence)
  generalize all.filter (start ≤ ·.globalSequence) = es at hmem hfrom
  have hlow : ∀ e ∈ es, start ≤ e.globalSequence := fun e he => (hmem.1 he).2
  -- an event from the start on is in the page if the next page starts after it
  have hpage : ∀ e ∈ es, e ∈ es.take size ↔
      e.globalSequence < EventLog.nextOf (es.take size) start := by
    intro e he
    rw [← List.take_append_drop size es] at hfrom hlow he
    exact mem_iff_lt_nextOf hfrom hlow he
  constructor
  case bounded => exact List.length_take_le size es
  case ascending => exact hfrom.sublist (List.take_sublist size es)
  case within =>
    intro e he
    have hes := List.mem_of_mem_take he
    exact ⟨(hmem.1 hes).1, (hmem.1 hes).2, (hpage e hes).1 he⟩
  case passed =>
    intro e he hlow hhigh
    exact (hpage e (hmem.2 ⟨he, hlow⟩)).2 hhigh
  case onward => exact nextOf_cases (es.take size) start
  case ended =>
    intro hnil e he
    have hes : es = [] := (List.take_eq_nil_iff.1 hnil).resolve_left hsize
    by_contra hlow
    have hin := hmem.2 ⟨he, Nat.not_lt.1 hlow⟩
    rw [hes] at hin
    cases hin

/-- An empty page leaves the scan where it is. -/
theorem Cut.next_of_nil (h : Cut all start size p) (hnil : p.events = []) : p.next = start := by
  refine h.onward.resolve_right ?_
  rintro ⟨e, he, -⟩
  rw [hnil] at he
  cases he

theorem Cut.le_next (h : Cut all start size p) : start ≤ p.next := by
  rcases h.onward with heq | ⟨e, he, -⟩
  · exact heq.ge
  · have := h.within e he
    omega

/-- A page with events leads on, to right after an event. -/
theorem Cut.lt_next (h : Cut all start size p)
    (hne : p.events ≠ []) : start < p.next ∧ ∃ e ∈ all, p.next = e.globalSequence + 1 := by
  obtain ⟨e, he⟩ := List.exists_mem_of_ne_nil p.events hne
  have hlt : start < p.next := (h.within e he).2.1.trans_lt (h.within e he).2.2
  obtain ⟨e', he', hnext⟩ := h.onward.resolve_left (Nat.ne_of_gt hlt)
  exact ⟨hlt, e', (h.within e' he').1, hnext⟩

end Page

namespace EventLog.Coherent

variable {l : EventLog} {start size : Nat} {p : Page} (h : l.Coherent)

include h

/-- What a page of a positive size shows. -/
theorem page_eq (start : Nat) (hsize : size ≠ 0) :
    l.page start size = .ok ⟨(l.all.filter (start ≤ ·.globalSequence)).take size,
      nextOf ((l.all.filter (start ≤ ·.globalSequence)).take size) start⟩ := by
  rw [page, if_neg hsize, h.atLeast_log]
  rfl

/-- **Reading a page cuts it out of all events.** -/
theorem cut_of_page (hp : l.page start size = .ok p) : p.Cut l.all start size := by
  rcases Nat.eq_zero_or_pos size with rfl | hpos
  · cases hp
  · rw [h.page_eq start (Nat.ne_of_gt hpos)] at hp
    obtain rfl := Except.ok.inj hp
    exact Page.cut_take h.ascending (Nat.ne_of_gt hpos)

/-- **The events from a number on are those of a page and those from its end on.** -/
theorem filter_eq_page_append (start size : Nat) :
    l.all.filter (start ≤ ·.globalSequence) =
      (l.all.filter (start ≤ ·.globalSequence)).take size ++
        l.all.filter (nextOf ((l.all.filter (start ≤ ·.globalSequence)).take size) start ≤
          ·.globalSequence) := by
  have hlow : ∀ e ∈ l.all.filter (start ≤ ·.globalSequence), start ≤ e.globalSequence :=
    fun e he => of_decide_eq_true (List.mem_filter.1 he).2
  have hnext := Page.le_nextOf fun e he =>
    hlow e (List.mem_of_mem_take (i := size) he)
  have hfrom := h.ascending.filter (start ≤ ·.globalSequence)
  rw [← Page.filter_filter_of_le l.all hnext]
  generalize l.all.filter (start ≤ ·.globalSequence) = es at hfrom hlow
  conv_lhs => rw [← List.take_append_drop size es]
  rw [← List.take_append_drop size es] at hfrom hlow
  have hrest := Page.filter_nextOf hfrom hlow
  rw [List.take_append_drop] at hrest
  rw [hrest]

end EventLog.Coherent

end EventLedger
