import EventLedger.Proofs.Tables.SharedServer

/-!
# The order in which numbers become visible

If rows are inserted only by the transaction that holds the commit lock, then one transaction at a
time has numbers that are not visible yet, and these exceed all visible ones.  So numbers become
visible in the order in which they are drawn.

## Main definitions

* `SharedServer.Inv` — one transaction at most has drawn numbers, and these exceed all visible ones.
* `SharedServer.Follows` — what becomes visible later was drawn already, or was not drawn yet.

## Main results

* `SharedServer.Moves.inv` — **the invariant is kept** by each kind of moves.
* `SharedServer.Moves.follows` — what becomes visible by a move.
-/

namespace EventLedger

/-- No transaction is open, and the visible rows stand in the order of numbers that were drawn. -/
structure Server.AtRest (s : Server) : Prop where
  ascending : s.events.Pairwise fun r r' => r.global < r'.global
  drawn : ∀ r ∈ s.events, r.global < s.nextGlobal
  transactions : ∀ i, s.transaction i = {}

namespace SharedServer

variable {w w' w'' : SharedServer} {i j : Nat}

/-- What holds at every moment. -/
structure Inv (w : SharedServer) : Prop where
  /-- One transaction at most holds the lock, -/
  alone : ∀ {i j}, (w.transaction i).holdsLock = true → (w.transaction j).holdsLock = true → i = j
  /-- and no other one has drawn numbers, -/
  holder : ∀ {i g}, w.drawn i g → (w.transaction i).holdsLock = true
  /-- those of its rows among them. -/
  held : ∀ {i r}, r ∈ (w.transaction i).rows → w.drawn i r.global
  ascending : ∀ i, (w.transaction i).rows.Pairwise fun r r' => r.global < r'.global
  /-- They exceed all visible ones. -/
  above : ∀ {i g r}, w.drawn i g → r ∈ w.visible → r.global < g
  visible : w.visible.Pairwise fun r r' => r.global < r'.global
  /-- None of these numbers is drawn again. -/
  fresh : ∀ {i g}, w.drawn i g → g < w.server.nextGlobal
  gone : ∀ {r}, r ∈ w.visible → r.global < w.server.nextGlobal

/-- What becomes visible later was drawn already, or was not drawn yet. -/
structure Follows (w w' : SharedServer) : Prop where
  next : w.server.nextGlobal ≤ w'.server.nextGlobal
  drawn : ∀ {i g}, w'.drawn i g → w.drawn i g ∨ w.server.nextGlobal ≤ g
  visible : ∀ {r}, r ∈ w'.visible →
    r ∈ w.visible ∨ (∃ i, w.drawn i r.global) ∨ w.server.nextGlobal ≤ r.global

theorem Inv.of_atRest {server : Server} (h : server.AtRest) : Inv { server := server } := by
  have hrows : ∀ {i r}, r ∉ (server.transaction i).rows := by
    intro i r hr
    rw [h.transactions i] at hr
    cases hr
  constructor
  case alone =>
    intro i j hi
    change (server.transaction i).holdsLock = true at hi
    rw [h.transactions i] at hi
    cases hi
  case holder => exact False.elim
  case held => exact fun hr => absurd hr hrows
  case ascending =>
    intro i
    change (server.transaction i).rows.Pairwise _
    rw [h.transactions i]
    exact .nil
  case above => exact False.elim
  case visible => exact h.ascending
  case fresh => exact False.elim
  case gone => exact fun hr => h.drawn _ hr

/-- What a transaction has drawn, nobody else has. -/
theorem Inv.eq_of_drawn (hw : w.Inv) {g g' : Int} (h : w.drawn i g) (h' : w.drawn j g') : i = j :=
  hw.alone (hw.holder h) (hw.holder h')

/-! ### Each kind of moves keeps the invariant -/

variable {rows : List EventRow}

theorem Rests.inv (h : w.Rests w') (hw : w.Inv) : w'.Inv := by
  have hlocks : ∀ {j}, (w'.transaction j).holdsLock = true → (w.transaction j).holdsLock = true :=
    fun hj => (h.transaction _).2 ▸ hj
  constructor
  case alone => exact fun hi hj => hw.alone (hlocks hi) (hlocks hj)
  case holder =>
    intro i g hg
    rw [(h.transaction i).2]
    exact hw.holder (h.drawn ▸ hg)
  case held =>
    intro i r hr
    rw [h.drawn]
    exact hw.held ((h.transaction i).1 ▸ hr)
  case ascending => exact fun i => (h.transaction i).1 ▸ hw.ascending i
  case above => exact fun hg hr => hw.above (h.drawn ▸ hg) (h.visible.subset hr)
  case visible => exact hw.visible.sublist h.visible
  case fresh => exact fun hg => h.next ▸ hw.fresh (h.drawn ▸ hg)
  case gone => exact fun hr => h.next ▸ hw.gone (h.visible.subset hr)

/-- What is drawn once a transaction is over, others have drawn. -/
theorem Renews.drawn_of_drawn (h : w.Renews i rows w') {g : Int} (hg : w'.drawn j g) :
    j ≠ i ∧ w.drawn j g := by
  rw [h.drawn] at hg
  by_cases hij : j = i
  · subst hij
    rw [Function.update_self] at hg
    exact hg.elim
  · rw [Function.update_of_ne hij] at hg
    exact ⟨hij, hg⟩

/-- The rows that a transaction makes visible have numbers that it has drawn. -/
theorem Renews.drawn_of_mem (h : w.Renews i rows w') (hw : w.Inv) {r : EventRow} (hr : r ∈ rows) :
    w.drawn i r.global := by
  rcases h.shown with rfl | rfl
  · cases hr
  · exact hw.held hr

theorem Renews.inv (h : w.Renews i rows w') (hw : w.Inv) : w'.Inv := by
  have hlocks : ∀ {j}, (w'.transaction j).holdsLock = true →
      j ≠ i ∧ (w.transaction j).holdsLock = true := by
    intro j hj
    by_cases hij : j = i
    · subst hij
      rw [h.own] at hj
      cases hj
    · exact ⟨hij, (h.others j hij).1 ▸ hj⟩
  constructor
  case alone => exact fun hi hj => hw.alone (hlocks hi).2 (hlocks hj).2
  case holder =>
    intro j g hg
    obtain ⟨hij, hg⟩ := h.drawn_of_drawn hg
    rw [(h.others j hij).1]
    exact hw.holder hg
  case held =>
    intro j r hr
    by_cases hij : j = i
    · subst hij
      rw [h.own] at hr
      cases hr
    · rw [h.drawn, Function.update_of_ne hij]
      exact hw.held ((h.others j hij).1 ▸ hr)
  case ascending =>
    intro j
    by_cases hij : j = i
    · subst hij
      rw [h.own]
      exact .nil
    · rw [(h.others j hij).1]
      exact hw.ascending j
  case above =>
    intro j g r hg hr
    obtain ⟨hij, hg⟩ := h.drawn_of_drawn hg
    rcases List.mem_append.1 (h.visible ▸ hr) with hr | hr
    · exact hw.above hg hr
    · exact absurd (hw.eq_of_drawn hg (h.drawn_of_mem hw hr)) hij
  case visible =>
    rw [h.visible]
    refine List.pairwise_append.2 ⟨hw.visible, ?_, ?_⟩
    · rcases h.shown with rfl | rfl
      · exact .nil
      · exact hw.ascending i
    · exact fun r hr r' hr' => hw.above (h.drawn_of_mem hw hr') hr
  case fresh => exact fun hg => h.next ▸ hw.fresh (h.drawn_of_drawn hg).2
  case gone =>
    intro r hr
    rw [h.next]
    rcases List.mem_append.1 (h.visible ▸ hr) with hr | hr
    · exact hw.gone hr
    · exact hw.fresh (h.drawn_of_mem hw hr)

theorem Locks.inv (h : w.Locks i w') (hw : w.Inv) : w'.Inv := by
  have hrows : ∀ j, (w'.transaction j).rows = (w.transaction j).rows := by
    intro j
    by_cases hij : j = i
    · subst hij
      rw [h.own]
    · rw [h.others j hij]
  -- nobody else holds the lock
  have hlocks : ∀ {j}, (w'.transaction j).holdsLock = true → j = i := by
    intro j hj
    by_contra hij
    rw [h.others j hij, h.free j hij] at hj
    cases hj
  constructor
  case alone => exact fun hi hj => (hlocks hi).trans (hlocks hj).symm
  case holder =>
    intro j g hg
    have hj := hw.holder (h.drawn ▸ hg)
    by_cases hij : j = i
    · subst hij
      rw [h.own]
    · rw [h.others j hij]
      exact hj
  case held =>
    intro j r hr
    rw [h.drawn]
    exact hw.held (hrows j ▸ hr)
  case ascending => exact fun j => hrows j ▸ hw.ascending j
  case above => exact fun hg hr => hw.above (h.drawn ▸ hg) (h.visible ▸ hr)
  case visible => exact h.visible ▸ hw.visible
  case fresh => exact fun hg => h.next ▸ hw.fresh (h.drawn ▸ hg)
  case gone => exact fun hr => h.next ▸ hw.gone (h.visible ▸ hr)

/-- What is drawn after a transaction has drawn numbers. -/
theorem Draws.drawn_iff (h : w.Draws i rows w') (g : Int) : w'.drawn j g ↔
    w.drawn j g ∨ j = i ∧ w.server.nextGlobal ≤ g ∧ g < w'.server.nextGlobal := by
  rw [h.drawn]
  by_cases hij : j = i
  · subst hij
    rw [Function.update_self]
    exact or_congr_right (and_iff_right rfl).symm
  · rw [Function.update_of_ne hij]
    exact (or_iff_left fun hg => hij hg.1).symm

theorem Draws.inv (h : w.Draws i rows w') (hw : w.Inv) : w'.Inv := by
  have hlocks : ∀ j, (w'.transaction j).holdsLock = (w.transaction j).holdsLock := by
    intro j
    by_cases hij : j = i
    · subst hij
      rw [h.own]
    · rw [h.others j hij]
  constructor
  case alone => exact fun hi hj => hw.alone (hlocks _ ▸ hi) (hlocks _ ▸ hj)
  case holder =>
    intro j g hg
    rw [hlocks]
    rcases (h.drawn_iff g).1 hg with hg | ⟨rfl, -⟩
    · exact hw.holder hg
    · exact h.lock
  case held =>
    intro j r hr
    rw [h.drawn_iff]
    by_cases hij : j = i
    · subst hij
      rw [h.own] at hr
      rcases List.mem_append.1 hr with hr | hr
      · exact .inl (hw.held hr)
      · exact .inr ⟨rfl, h.numbers r hr⟩
    · exact .inl (hw.held (h.others j hij ▸ hr))
  case ascending =>
    intro j
    by_cases hij : j = i
    · subst hij
      rw [h.own]
      refine List.pairwise_append.2 ⟨hw.ascending j, h.ascending, ?_⟩
      exact fun r hr r' hr' => (hw.fresh (hw.held hr)).trans_le (h.numbers r' hr').1
    · rw [h.others j hij]
      exact hw.ascending j
  case above =>
    intro j g r hg hr
    rw [h.visible] at hr
    rcases (h.drawn_iff g).1 hg with hg | ⟨-, hlow, -⟩
    · exact hw.above hg hr
    · exact (hw.gone hr).trans_le hlow
  case visible => exact h.visible ▸ hw.visible
  case fresh =>
    intro j g hg
    rcases (h.drawn_iff g).1 hg with hg | ⟨-, -, hhigh⟩
    · exact (hw.fresh hg).trans_le h.next
    · exact hhigh
  case gone => exact fun hr => (hw.gone (h.visible ▸ hr)).trans_le h.next

/-- **The invariant is kept.** -/
theorem Moves.inv (h : w.Moves i w') (hw : w.Inv) : w'.Inv := by
  cases h with
  | rests h => exact h.inv hw
  | renews h => exact h.inv hw
  | locks h => exact h.inv hw
  | draws h => exact h.inv hw

/-! ### What becomes visible later -/

theorem Follows.refl (w : SharedServer) : w.Follows w := ⟨Int.le_refl _, .inl, .inl⟩

theorem Follows.trans (h : w.Follows w') (h' : w'.Follows w'') : w.Follows w'' where
  next := h.next.trans h'.next
  drawn hg := by
    rcases h'.drawn hg with hg | hle
    · exact h.drawn hg
    · exact .inr (h.next.trans hle)
  visible hr := by
    rcases h'.visible hr with hr | ⟨i, hg⟩ | hle
    · exact h.visible hr
    · exact .inr ((h.drawn hg).imp_left fun hg => ⟨i, hg⟩)
    · exact .inr (.inr (h.next.trans hle))

/-- What becomes visible by a move was drawn already, or was not drawn yet. -/
theorem Moves.follows (h : w.Moves i w') (hw : w.Inv) : w.Follows w' := by
  cases h with
  | rests h =>
    exact ⟨h.next.ge, fun hg => .inl (h.drawn ▸ hg), fun hr => .inl (h.visible.subset hr)⟩
  | renews h =>
    refine ⟨h.next.ge, fun hg => .inl (h.drawn_of_drawn hg).2, ?_⟩
    intro r hr
    rcases List.mem_append.1 (h.visible ▸ hr) with hr | hr
    · exact .inl hr
    · exact .inr (.inl ⟨i, h.drawn_of_mem hw hr⟩)
  | locks h => exact ⟨h.next.ge, fun hg => .inl (h.drawn ▸ hg), fun hr => .inl (h.visible ▸ hr)⟩
  | draws h =>
    refine ⟨h.next, ?_, fun hr => .inl (h.visible ▸ hr)⟩
    intro j g hg
    exact ((h.drawn_iff g).1 hg).imp_right fun hg => hg.2.1

end SharedServer

end EventLedger
