import EventLedger.Proofs.Call.Discipline
import EventLedger.Proofs.Tables.Rows
import EventLedger.Tables.Server
import Mathlib.Data.List.Nodup

/-!
# What a server may do

What SQL says of a database server: the table of events holds one row for a place; the numbers that
are drawn ascend but may leave gaps; values are kept as they are.  A server that gives the numbers
out one by one is one of these.

## Main definitions

* `Apart rows` — the rows stand at places of their own.
* `Server.Fits taken drafts` — the rows can be put beside those that are there.
* `Server.Executes s session q a s'` — what the server may answer to a statement, and do.

## Main results

* `Server.exists_executes` — the server has an answer to every statement.
* `Server.executes_perform` — **a server that gives the numbers out one by one is such a server.**
* `Server.Executes.stands` — what is visible changes by commits and deletions only.
* `Server.bySequence_eq` — selecting rows by sequence number yields the list that has just these.
-/

namespace EventLedger

/-- Rows for drafts that got the given global numbers. -/
def rowsOf (drafts : List EventDraft) (globals : List Nat) : List EventRow :=
  List.zipWith (fun d (g : Nat) => ⟨d, g⟩) drafts globals

/-- No two rows stand at one place. -/
def Apart (rows : List EventRow) : Prop :=
  rows.Pairwise fun r r' => r.collides r'.toEventDraft = false

theorem EventDraft.collides_comm (d e : EventDraft) : d.collides e = e.collides d := by
  have hname : (d.name == e.name) = (e.name == d.name) := Bool.beq_comm
  have hid : (d.id == e.id) = (e.id == d.id) := Bool.beq_comm
  have hsequence : (d.sequence == e.sequence) = (e.sequence == d.sequence) := Bool.beq_comm
  rw [collides, collides, hname, hid, hsequence]

theorem map_toEventDraft_rowsOf : ∀ {drafts : List EventDraft} {globals : List Nat},
    globals.length = drafts.length → (rowsOf drafts globals).map (·.toEventDraft) = drafts
  | [], [], _ => rfl
  | d :: _, _ :: _, h => congrArg (d :: ·) (map_toEventDraft_rowsOf (Nat.succ.inj h))

namespace Server

/-- Rows for the drafts can be put beside the rows that are there. -/
structure Fits (taken : List EventRow) (drafts : List EventDraft) : Prop where
  free : ∀ d ∈ drafts, ∀ r ∈ taken, d.collides r.toEventDraft = false
  apart : drafts.Pairwise fun d e => d.collides e = false

/-- What inserting rows may yield and do.  Global numbers that were drawn are gone, also if the rows
are refused. -/
inductive Inserts (s : Server) (session : Nat) (drafts : List EventDraft) :
    Except DatabaseFailure (List Int) → Server → Prop
  | stored {globals : List Nat} {next : Int}
      (hfits : Fits (s.events ++ (s.transaction session).rows) drafts)
      (hlength : globals.length = drafts.length) (hascending : globals.Pairwise (· < ·))
      (hdrawn : ∀ g ∈ globals, s.nextGlobal ≤ (g : Int) ∧ (g : Int) < next)
      (hnext : s.nextGlobal ≤ next) :
      Inserts s session drafts (.ok (globals.map Nat.cast))
        ({ s with nextGlobal := next }.withTransaction session
          { s.transaction session with
            rows := (s.transaction session).rows ++ rowsOf drafts globals })
  | refused {text : String} {next : Int}
      (hfits : ¬Fits (s.events ++ (s.transaction session).rows) drafts)
      (hnext : s.nextGlobal ≤ next) :
      Inserts s session drafts (.error (.refused (some DatabaseFailure.uniqueViolation) text))
        { s with nextGlobal := next }

/-- What the server may answer to a statement of a session on tables that exist, and do. -/
def Executes (s : Server) (session : Nat) : (q : Statement) → q.Answer → Server → Prop
  | .insertEvents drafts, a, s' => s.Inserts session drafts a s'
  | q, a, s' => s.perform session q = (a, s')

variable {s s' : Server} {session : Nat} {q : Statement} {a : q.Answer}
  {taken taken' : List EventRow} {drafts : List EventDraft}

@[simp] theorem transaction_withTransaction (s : Server) (session : Nat) (t : Transaction) :
    (s.withTransaction session t).transaction session = t := by
  rw [transaction, withTransaction, OrderedMap.get?_insert_self, Option.getD_some]

theorem transaction_withTransaction_of_ne (s : Server) (t : Transaction) {i j : Nat} (hij : j ≠ i) :
    (s.withTransaction i t).transaction j = s.transaction j := by
  rw [transaction, withTransaction, OrderedMap.get?_insert, if_neg]
  · rfl
  · exact fun h => hij (Nat.compare_eq_eq.1 h).symm

@[simp] theorem transaction_withoutTransaction (s : Server) (session : Nat) :
    (s.withoutTransaction session).transaction session = {} := by
  rw [transaction, withoutTransaction, OrderedMap.get?_erase, if_pos (Nat.compare_eq_eq.2 rfl)]
  rfl

theorem transaction_withoutTransaction_of_ne (s : Server) {i j : Nat} (hij : j ≠ i) :
    (s.withoutTransaction i).transaction j = s.transaction j := by
  rw [transaction, withoutTransaction, OrderedMap.get?_erase, if_neg]
  · rfl
  · exact fun h => hij (Nat.compare_eq_eq.1 h).symm

/-- A session need not wait for the lock only if no other transaction holds it. -/
theorem holdsLock_of_isBlocked {i j : Nat} (h : s.isBlocked i .lock = false) (hij : j ≠ i) :
    (s.transaction j).holdsLock = false := by
  rw [transaction]
  cases ht : s.transactions.get? j with
  | none => rfl
  | some t =>
    have hother := List.any_eq_false.1 h _ (OrderedMap.mem_entries_iff.2 ht)
    simpa [hij] using hother

/-- The server has an answer to every statement. -/
theorem exists_executes (s : Server) (session : Nat) (q : Statement) :
    ∃ a s', s.Executes session q a s' := by
  cases q with
  | insertEvents drafts =>
    by_cases hfits : Fits (s.events ++ (s.transaction session).rows) drafts
    · have hdrawn : ∀ g ∈ List.range' s.nextGlobal.toNat drafts.length,
          s.nextGlobal ≤ (g : Int) ∧ (g : Int) < s.nextGlobal.toNat + drafts.length := by
        intro g hg
        rw [List.mem_range'_1] at hg
        omega
      exact ⟨_, _, .stored hfits List.length_range' List.pairwise_lt_range' hdrawn (by omega)⟩
    · exact ⟨.error (.refused _ "duplicate key"), _, .refused hfits (Int.le_refl _)⟩
  | _ => exact ⟨_, _, rfl⟩

/-- Selecting rows by sequence number yields the list that has just these in their order. -/
theorem bySequence_eq {p : EventRow → Bool} {rows : List EventRow} (hnodup : s.events.Nodup)
    (hmem : ∀ r, r ∈ rows ↔ r ∈ s.events ∧ p r = true)
    (hrows : rows.Pairwise fun r r' => r.sequence < r'.sequence) : s.bySequence p = rows := by
  have hsequences : (rows.map (·.sequence)).Nodup := by
    rw [List.Nodup, List.pairwise_map]
    exact hrows.imp Int.ne_of_lt
  have hperm : (s.bySequence p).Perm rows := by
    refine (List.mergeSort_perm _ _).trans ?_
    rw [List.perm_ext_iff_of_nodup (hnodup.filter _) hsequences.of_map]
    intro r
    rw [List.mem_filter, hmem]
  refine hperm.eq_of_pairwise ?_ ?_ (hrows.imp Int.le_of_lt)
  · intro r r' hr hr' hle hle'
    exact List.inj_on_of_nodup_map hsequences (hperm.mem_iff.1 hr) hr' (Int.le_antisymm hle hle')
  · have hsorted : (s.bySequence p).Pairwise fun r r' => decide (r.sequence ≤ r'.sequence) = true :=
      List.pairwise_mergeSort (fun _ _ _ => by simpa using Int.le_trans)
        (fun _ _ => by simpa using Int.le_total _ _) _
    exact hsorted.imp of_decide_eq_true

/-! ### Rows that fit -/

theorem Fits.left (h : Fits (taken ++ taken') drafts) : Fits taken drafts where
  free := by
    intro d hd r hr
    exact h.free d hd r (List.mem_append_left taken' hr)
  apart := h.apart

/-- Rows that are put beside others stand at places of their own. -/
theorem Fits.apart_append {new : List EventRow} (h : Fits taken (new.map (·.toEventDraft)))
    (htaken : Apart taken) : Apart (taken ++ new) := by
  refine List.pairwise_append.2 ⟨htaken, List.pairwise_map.1 h.apart, ?_⟩
  intro r hr r' hr'
  rw [EventDraft.collides_comm]
  exact h.free _ (List.mem_map_of_mem hr') r hr

/-- Rows of an open transaction can still be put beside those that others make visible. -/
theorem Fits.append {own new : List EventRow} (h : Fits taken (own.map (·.toEventDraft)))
    (hnew : Fits (taken ++ own) (new.map (·.toEventDraft))) :
    Fits (taken ++ new) (own.map (·.toEventDraft)) := by
  refine ⟨?_, h.apart⟩
  intro d hd r hr
  rcases List.mem_append.1 hr with hr | hr
  · exact h.free d hd r hr
  · obtain ⟨r', hr', rfl⟩ := List.mem_map.1 hd
    rw [EventDraft.collides_comm]
    exact hnew.free _ (List.mem_map_of_mem hr) r' (List.mem_append_right taken hr')

/-! ### Statements -/

/-- Inserting rows shows none of them, and draws global numbers only forward. -/
theorem Inserts.stands {a : Except DatabaseFailure (List Int)}
    (h : s.Inserts session drafts a s') : s'.events = s.events ∧ s.nextGlobal ≤ s'.nextGlobal := by
  cases h with
  | stored _ _ _ _ hnext => exact ⟨rfl, hnext⟩
  | refused _ hnext => exact ⟨rfl, hnext⟩

/-- A statement that neither commits nor deletes leaves the visible rows. -/
theorem Executes.stands (h : s.Executes session q a s') (hcommit : q ≠ .commit)
    (hdelete : ∀ key, q ≠ .deleteEvents key) :
    s'.events = s.events ∧ s.nextGlobal ≤ s'.nextGlobal := by
  cases q with
  | commit => exact absurd rfl hcommit
  | deleteEvents key => exact absurd rfl (hdelete key)
  | insertEvents drafts => exact Inserts.stands h
  | _ =>
    cases h
    exact ⟨rfl, Int.le_refl _⟩

/-- A statement that inserts no rows has one answer. -/
theorem Executes.perform_eq (h : s.Executes session q a s') (hinsert : ∀ ds, q ≠ .insertEvents ds) :
    s.perform session q = (a, s') := by
  cases q with
  | insertEvents ds => exact absurd rfl (hinsert ds)
  | _ => exact h

/-! ### Numbers that are given out one by one -/

/-- Rows fit one after another. -/
theorem fits_cons_iff {taken : List EventRow} {d : EventDraft} {rest : List EventDraft} (g : Int) :
    Fits taken (d :: rest) ↔
      (∀ r ∈ taken, d.collides r.toEventDraft = false) ∧ Fits (⟨d, g⟩ :: taken) rest := by
  constructor
  · rintro ⟨hfree, hapart⟩
    obtain ⟨hfirst, hrest⟩ := List.pairwise_cons.1 hapart
    refine ⟨hfree d List.mem_cons_self, ?_, hrest⟩
    intro e he r hr
    rcases List.mem_cons.1 hr with rfl | hr
    · rw [EventDraft.collides_comm]
      exact hfirst e he
    · exact hfree e (List.mem_cons_of_mem d he) r hr
  · rintro ⟨hfirst, hfree, hapart⟩
    refine ⟨?_, List.pairwise_cons.2 ⟨?_, hapart⟩⟩
    · intro e he r hr
      rcases List.mem_cons.1 he with rfl | he
      · exact hfirst r hr
      · exact hfree e he r (List.mem_cons_of_mem _ hr)
    · intro e he
      rw [EventDraft.collides_comm]
      exact hfree e he ⟨d, g⟩ List.mem_cons_self

/-- Rows that are kept as they are get one number after another if they fit, and none otherwise. -/
theorem draw_cases : ∀ {drafts : List EventDraft} (taken : List EventRow) (next : Nat),
    (∀ d ∈ drafts, d.stored = d) →
    Fits taken drafts ∧ draw taken next drafts =
        (some (rowsOf drafts (List.range' next drafts.length)), (next : Int) + drafts.length) ∨
      ¬Fits taken drafts ∧ (draw taken next drafts).1 = none ∧
        (next : Int) ≤ (draw taken next drafts).2
  | [], taken, next, _ => by
    refine .inl ⟨⟨?_, .nil⟩, ?_⟩
    · intro d hd
      cases hd
    · exact congrArg (Prod.mk _) (Int.add_zero _).symm
  | d :: rest, taken, next, hstored => by
    have hd : d.stored = d := hstored d List.mem_cons_self
    have hrest : ∀ e ∈ rest, e.stored = e := fun e he => hstored e (List.mem_cons_of_mem d he)
    have hnext : (next : Int) + 1 = (next + 1 : Nat) := rfl
    rw [draw, hd, hnext, fits_cons_iff next]
    by_cases htaken : (taken.any fun r => d.collides r.toEventDraft) = true
    · rw [if_pos htaken]
      refine .inr ⟨?_, rfl, Int.ofNat_le.2 (Nat.le_succ next)⟩
      rintro ⟨hfirst, -⟩
      obtain ⟨r, hr, hcollides⟩ := List.any_eq_true.1 htaken
      rw [hfirst r hr] at hcollides
      cases hcollides
    · have hfirst : ∀ r ∈ taken, d.collides r.toEventDraft = false := by
        intro r hr
        rw [← Bool.not_eq_true]
        exact fun hcollides => htaken (List.any_eq_true.2 ⟨r, hr, hcollides⟩)
      rw [if_neg htaken]
      dsimp only
      -- the row takes its place before the next one is looked at
      rcases draw_cases (⟨d, next⟩ :: taken) (next + 1) hrest with
        ⟨hfits, hdraw⟩ | ⟨hfits, hnone, hle⟩
      · refine .inl ⟨⟨hfirst, hfits⟩, ?_⟩
        rw [hdraw, List.length_cons, List.range'_succ]
        refine congrArg₂ Prod.mk rfl ?_
        omega
      · refine .inr ⟨fun h => hfits h.2, ?_, ?_⟩
        · rw [hnone]
          rfl
        · omega

theorem map_global_rowsOf : ∀ {drafts : List EventDraft} {globals : List Nat},
    globals.length = drafts.length →
    (rowsOf drafts globals).map (·.global) = globals.map Nat.cast
  | [], [], _ => rfl
  | _ :: _, g :: _, h => congrArg ((g : Int) :: ·) (map_global_rowsOf (Nat.succ.inj h))

/-- The numbers of the rows that are inserted ascend from the next one on. -/
theorem ascending_draw : ∀ (taken : List EventRow) (next : Int) (drafts : List EventDraft),
    next ≤ (draw taken next drafts).2 ∧ ∀ rows, (draw taken next drafts).1 = some rows →
      rows.Pairwise (fun r r' => r.global < r'.global) ∧
        ∀ r ∈ rows, next ≤ r.global ∧ r.global < (draw taken next drafts).2
  | taken, next, [] => by
    refine ⟨Int.le_refl next, ?_⟩
    rintro rows ⟨⟩
    exact ⟨.nil, fun _ hr => absurd hr List.not_mem_nil⟩
  | taken, next, d :: rest => by
    rw [draw]
    split
    · exact ⟨by dsimp only; omega, fun rows hrows => by cases hrows⟩
    · obtain ⟨hle, hrest⟩ := ascending_draw (⟨d.stored, next⟩ :: taken) (next + 1) rest
      refine ⟨by dsimp only; omega, ?_⟩
      intro rows hrows
      obtain ⟨rows, hsome, rfl⟩ := Option.map_eq_some_iff.1 hrows
      obtain ⟨hascending, hdrawn⟩ := hrest rows hsome
      refine ⟨List.pairwise_cons.2 ⟨?_, hascending⟩, ?_⟩
      · intro r hr
        have := (hdrawn r hr).1
        dsimp only
        omega
      · rintro r (_ | ⟨_, hr⟩)
        · dsimp only
          omega
        · have := hdrawn r hr
          dsimp only
          omega

/-- The server that runs inserts rows in such a way, if the columns keep them as they are. -/
theorem inserts_insert {drafts : List EventDraft} (hnext : 0 ≤ s.nextGlobal)
    (hstored : ∀ d ∈ drafts, d.stored = d) :
    s.Inserts session drafts (s.insert session drafts).1 (s.insert session drafts).2 := by
  obtain ⟨next, hn⟩ := Int.eq_ofNat_of_zero_le hnext
  have hcases := draw_cases (s.events ++ (s.transaction session).rows) next hstored
  rw [← hn] at hcases
  dsimp only [insert]
  rcases hcases with ⟨hfits, hdraw⟩ | ⟨hfits, hnone, hle⟩
  · have hlength : (List.range' next drafts.length).length = drafts.length := List.length_range'
    have hdrawn : ∀ g ∈ List.range' next drafts.length,
        s.nextGlobal ≤ (g : Int) ∧ (g : Int) < s.nextGlobal + drafts.length := by
      intro g hg
      rw [List.mem_range'_1] at hg
      omega
    rw [hdraw]
    dsimp only
    rw [map_global_rowsOf hlength]
    exact .stored hfits hlength List.pairwise_lt_range' hdrawn (by omega)
  · rw [hnone]
    exact .refused hfits hle

/-- **A server that gives the numbers out one by one is such a server**, if its columns keep the rows
as they are. -/
theorem executes_perform (hnext : 0 ≤ s.nextGlobal)
    (hstored : ∀ ds, q = .insertEvents ds → ∀ d ∈ ds, d.stored = d) :
    s.Executes session q (s.perform session q).1 (s.perform session q).2 := by
  cases q with
  | insertEvents ds => exact inserts_insert hnext (hstored ds rfl)
  | _ => exact rfl

end Server

end EventLedger
