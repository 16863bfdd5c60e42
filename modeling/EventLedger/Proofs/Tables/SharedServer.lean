import EventLedger.Proofs.Tables.Server
import EventLedger.Tables.Storage
import Mathlib.Logic.Function.Basic

/-!
# A server with many sessions

Each session has its own transaction.  Global numbers are drawn when rows are inserted, and the rows
are seen when their transaction commits; what is drawn is gone, whether the rows are ever seen or
not.  Any statement may fail, its answer may get lost, and a transaction may be cut off at any
moment.

## Main definitions

* `SharedServer` — the server, and what the open transactions have drawn.
* `SharedServer.Answers`, `SharedServer.Serves` — how a statement of a session, and how a request of
  a call may be answered.
* `SharedServer.Moves` — what a session may do to what all of them see.

## Main results

* `SharedServer.Answers.moves` — **what a statement may do**, if rows are inserted under the lock.
-/

namespace EventLedger

/-- A server with many sessions. -/
structure SharedServer where
  /-- The server. -/
  server : Server
  /-- The global numbers that the open transaction of a session has drawn, also those of rows that
  were refused. -/
  drawn : Nat → Int → Prop := fun _ _ => False
  /-- Whether the transaction of a session was cut off, so that it has to begin another one. -/
  cut : Nat → Bool := fun _ => false

/-- Whether a statement belongs to a transaction that has begun. -/
def Statement.isInside : Statement → Bool
  | lock => true
  | insertEvents _ => true
  | commit => true
  | runMigration _ => true
  | recordMigration _ => true
  | _ => false

namespace SharedServer

/-- The rows that are visible, oldest first. -/
def visible (w : SharedServer) : List EventRow := w.server.events

/-- The open transaction of a session. -/
def transaction (w : SharedServer) (i : Nat) : Transaction := w.server.transaction i

/-- The server and its sessions after a statement that the server has carried out. -/
def after (w : SharedServer) (i : Nat) (q : Statement) (s : Server) : SharedServer where
  server := s
  drawn :=
    match q with
    | .insertEvents _ => Function.update w.drawn i fun g =>
        w.drawn i g ∨ w.server.nextGlobal ≤ g ∧ g < s.nextGlobal
    | .begin => Function.update w.drawn i fun _ => False
    | .commit => Function.update w.drawn i fun _ => False
    | .rollback => Function.update w.drawn i fun _ => False
    | .abandon => Function.update w.drawn i fun _ => False
    | _ => w.drawn
  cut :=
    match q with
    | .begin => Function.update w.cut i false
    | _ => w.cut

/-- The transaction of a session is ended from outside, without effect: its connection broke, its
client is gone, or the server gave it up. -/
def cutOff (w : SharedServer) (i : Nat) : SharedServer where
  server := w.server.withoutTransaction i
  drawn := Function.update w.drawn i fun _ => False
  cut := Function.update w.cut i true

/-- The server carries a statement out: as the server does that runs, or as one does that leaves gaps
between the numbers.  The commit lock is given to one transaction at a time. -/
structure Executes (w : SharedServer) (i : Nat) (q : Statement) (a : q.Answer) (s : Server) : Prop
    where
  free : w.server.isBlocked i q = false
  open_ : q.isInside = true → w.cut i = false
  done : w.server.Executes i q a s ∨ w.server.execute i q = (a, s)

/-- How a statement of a session is answered. -/
inductive Answers (w : SharedServer) (i : Nat) (q : Statement) (a : q.Answer) (w' : SharedServer) :
    Prop
  | executed {s : Server} (h : w.Executes i q a s) (hw : w' = w.after i q s)
  /-- It was carried out, but the answer got lost. -/
  | lost {f : DatabaseFailure} {a₀ : q.Answer} {s : Server} (ha : a = .error f)
      (h : w.Executes i q a₀ s) (hw : w' = w.after i q s)
  /-- It fails without effect. -/
  | failed {f : DatabaseFailure} (ha : a = .error f) (hw : w' = w)
  /-- Rows are refused after global numbers were drawn for them. -/
  | drew {f : DatabaseFailure} {ds : List EventDraft} {next : Int} (ha : a = .error f)
      (hq : q = .insertEvents ds) (hopen : w.cut i = false) (hnext : w.server.nextGlobal ≤ next)
      (hw : w' = w.after i q { w.server with nextGlobal := next })

/-- How a request of a call to the server is answered. -/
def Serves (w : SharedServer) (i : Nat) :
    (q : RetryRequest statementInterface) → q.Answer → SharedServer → Prop
  | .inner q, a, w' => w.Answers i q a w'
  | _, _, w' => w' = w

/-- If a session inserted rows now, then under the lock or in vain. -/
def MayInsert (w : SharedServer) (i : Nat) : Prop :=
  w.cut i = true ∨ (w.transaction i).holdsLock = true

/-- Nothing is done, except that rows may be deleted. -/
structure Rests (w w' : SharedServer) : Prop where
  visible : w'.visible.Sublist w.visible
  next : w'.server.nextGlobal = w.server.nextGlobal
  transaction : ∀ j, (w'.transaction j).rows = (w.transaction j).rows ∧
    (w'.transaction j).holdsLock = (w.transaction j).holdsLock
  drawn : w'.drawn = w.drawn
  cut : w'.cut = w.cut

/-- A transaction begins, or it ends and these rows of it become visible. -/
structure Renews (w : SharedServer) (i : Nat) (rows : List EventRow) (w' : SharedServer) :
    Prop where
  shown : rows = [] ∨ rows = (w.transaction i).rows
  visible : w'.visible = w.visible ++ rows
  next : w'.server.nextGlobal = w.server.nextGlobal
  own : w'.transaction i = {}
  others : ∀ j, j ≠ i → w'.transaction j = w.transaction j ∧ w'.cut j = w.cut j
  drawn : w'.drawn = Function.update w.drawn i fun _ => False

/-- A transaction takes the lock. -/
structure Locks (w : SharedServer) (i : Nat) (w' : SharedServer) : Prop where
  free : ∀ j, j ≠ i → (w.transaction j).holdsLock = false
  visible : w'.visible = w.visible
  next : w'.server.nextGlobal = w.server.nextGlobal
  own : w'.transaction i = { w.transaction i with holdsLock := true }
  others : ∀ j, j ≠ i → w'.transaction j = w.transaction j
  drawn : w'.drawn = w.drawn
  cut : w'.cut = w.cut

/-- A transaction that holds the lock draws numbers and inserts rows with some of them. -/
structure Draws (w : SharedServer) (i : Nat) (rows : List EventRow) (w' : SharedServer) : Prop where
  lock : (w.transaction i).holdsLock = true
  ascending : rows.Pairwise fun r r' => r.global < r'.global
  numbers : ∀ r ∈ rows, w.server.nextGlobal ≤ r.global ∧ r.global < w'.server.nextGlobal
  visible : w'.visible = w.visible
  next : w.server.nextGlobal ≤ w'.server.nextGlobal
  own : w'.transaction i = { w.transaction i with rows := (w.transaction i).rows ++ rows }
  others : ∀ j, j ≠ i → w'.transaction j = w.transaction j
  drawn : w'.drawn = Function.update w.drawn i fun g =>
    w.drawn i g ∨ w.server.nextGlobal ≤ g ∧ g < w'.server.nextGlobal
  cut : w'.cut = w.cut

/-- What a session may do to what all of them see. -/
inductive Moves (w : SharedServer) (i : Nat) (w' : SharedServer) : Prop
  | rests (h : w.Rests w')
  | renews {rows : List EventRow} (h : w.Renews i rows w')
  | locks (h : w.Locks i w')
  | draws {rows : List EventRow} (h : w.Draws i rows w')

variable {w w' w'' : SharedServer} {i j : Nat} {q : Statement} {a : q.Answer} {s : Server}

/-! ### What a statement may do -/

theorem MayInsert.holdsLock (h : w.MayInsert i) (hopen : w.cut i = false) :
    (w.transaction i).holdsLock = true := by
  refine h.resolve_left ?_
  rw [hopen]
  exact Bool.false_ne_true

/-- A transaction ends without effect. -/
theorem moves_of_end (hserver : w'.server = w.server.withoutTransaction i)
    (hdrawn : w'.drawn = Function.update w.drawn i fun _ => False)
    (hcut : ∀ j, j ≠ i → w'.cut j = w.cut j) : w.Moves i w' := by
  refine .renews ⟨.inl rfl, ?_, ?_, ?_, ?_, hdrawn⟩
  · rw [List.append_nil, visible, hserver]
    rfl
  · rw [hserver]
    rfl
  · rw [transaction, hserver, Server.transaction_withoutTransaction]
  · intro j hij
    rw [transaction, hserver, Server.transaction_withoutTransaction_of_ne _ hij]
    exact ⟨rfl, hcut j hij⟩

theorem moves_cutOff (w : SharedServer) (i : Nat) : w.Moves i (w.cutOff i) :=
  moves_of_end rfl rfl fun _ hij => Function.update_of_ne hij ..

/-- A transaction makes a note of something else than rows. -/
theorem rests_of_note {t : Transaction} (hserver : w'.server = w.server.withTransaction i t)
    (hrows : t.rows = (w.transaction i).rows) (hlock : t.holdsLock = (w.transaction i).holdsLock)
    (hdrawn : w'.drawn = w.drawn) (hcut : w'.cut = w.cut) : w.Rests w' := by
  refine ⟨?_, ?_, ?_, hdrawn, hcut⟩
  · rw [visible, hserver]
    exact List.Sublist.refl _
  · rw [hserver]
    rfl
  · intro j
    rw [transaction, hserver]
    by_cases hij : j = i
    · subst hij
      rw [Server.transaction_withTransaction]
      exact ⟨hrows, hlock⟩
    · rw [Server.transaction_withTransaction_of_ne _ t hij]
      exact ⟨rfl, rfl⟩

/-- What a statement may do that inserts no rows. -/
theorem moves_of_perform (hinsert : ∀ ds, q ≠ .insertEvents ds)
    (hfree : w.server.isBlocked i q = false) :
    w.Moves i (w.after i q (w.server.perform i q).2) := by
  have hchanged : ∀ {j} (t : Transaction), j ≠ i →
      (w.server.withTransaction i t).transaction j = w.server.transaction j :=
    fun t hij => Server.transaction_withTransaction_of_ne _ t hij
  cases q with
  | insertEvents ds => exact absurd rfl (hinsert ds)
  | begin =>
    exact .renews ⟨.inl rfl, (List.append_nil _).symm, rfl, Server.transaction_withTransaction ..,
      fun _ hij => ⟨hchanged _ hij, Function.update_of_ne hij ..⟩, rfl⟩
  | lock =>
    exact .locks ⟨fun _ hij => Server.holdsLock_of_isBlocked hfree hij, rfl, rfl,
      Server.transaction_withTransaction .., fun _ hij => hchanged _ hij, rfl, rfl⟩
  | commit =>
    exact .renews ⟨.inr rfl, rfl, rfl, Server.transaction_withoutTransaction _ i,
      fun _ hij => ⟨Server.transaction_withoutTransaction_of_ne _ hij, rfl⟩, rfl⟩
  | rollback => exact moves_of_end rfl rfl fun _ _ => rfl
  | abandon => exact moves_of_end rfl rfl fun _ _ => rfl
  | runMigration m => exact .rests (rests_of_note rfl rfl rfl rfl rfl)
  | recordMigration m => exact .rests (rests_of_note rfl rfl rfl rfl rfl)
  | deleteEvents key =>
    exact .rests ⟨List.filter_sublist, rfl, fun _ => ⟨rfl, rfl⟩, rfl, rfl⟩
  | _ => exact .rests ⟨List.Sublist.refl _, rfl, fun _ => ⟨rfl, rfl⟩, rfl, rfl⟩

/-- Numbers that are drawn for rows that are refused. -/
theorem moves_of_skip (ds : List EventDraft) {next : Int}
    (hlock : (w.transaction i).holdsLock = true)
    (hnext : w.server.nextGlobal ≤ next) :
    w.Moves i (w.after i (.insertEvents ds) { w.server with nextGlobal := next }) := by
  have hdraws : w.Draws i [] (w.after i (.insertEvents ds) { w.server with nextGlobal := next }) :=
    { lock := hlock
      ascending := .nil
      numbers := fun _ hr => absurd hr List.not_mem_nil
      visible := rfl
      next := hnext
      own := by rw [List.append_nil]; rfl
      others := fun _ _ => rfl
      drawn := rfl
      cut := rfl }
  exact .draws hdraws

/-- Numbers that are drawn for rows that are inserted. -/
theorem moves_of_rows (ds : List EventDraft) {next : Int} {rows : List EventRow}
    (hlock : (w.transaction i).holdsLock = true) (hnext : w.server.nextGlobal ≤ next)
    (hascending : rows.Pairwise fun r r' => r.global < r'.global)
    (hrows : ∀ r ∈ rows, w.server.nextGlobal ≤ r.global ∧ r.global < next) :
    w.Moves i (w.after i (.insertEvents ds)
      (Server.withTransaction { w.server with nextGlobal := next } i
        { w.transaction i with rows := (w.transaction i).rows ++ rows })) :=
  .draws
    { lock := hlock
      ascending := hascending
      numbers := hrows
      visible := rfl
      next := hnext
      own := Server.transaction_withTransaction ..
      others := fun _ hij => Server.transaction_withTransaction_of_ne _ _ hij
      drawn := rfl
      cut := rfl }

/-- What inserting rows may do. -/
theorem moves_of_insert {ds : List EventDraft} {a : Except DatabaseFailure (List Int)}
    (hlock : (w.transaction i).holdsLock = true)
    (h : w.server.Inserts i ds a s ∨ w.server.insert i ds = (a, s)) :
    w.Moves i (w.after i (.insertEvents ds) s) := by
  rcases h with h | h
  · cases h with
    | refused hfits hnext => exact moves_of_skip ds hlock hnext
    | @stored globals next hfits hlength hascending hdrawn hnext =>
      have hglobals := Server.map_global_rowsOf hlength
      refine moves_of_rows ds hlock hnext ?_ ?_
      · rw [← List.pairwise_map (f := EventRow.global), hglobals, List.pairwise_map]
        exact hascending.imp Int.ofNat_lt.2
      · intro r hr
        have hmem := List.mem_map_of_mem (f := EventRow.global) hr
        rw [hglobals] at hmem
        obtain ⟨g, hg, heq⟩ := List.mem_map.1 hmem
        rw [← heq]
        exact hdrawn g hg
  · obtain ⟨hnext, hrows⟩ := Server.ascending_draw (w.server.events ++ (w.transaction i).rows)
      w.server.nextGlobal ds
    dsimp only [Server.insert] at h
    cases hdraw : (Server.draw (w.server.events ++ (w.transaction i).rows)
        w.server.nextGlobal ds).1 with
    | none =>
      rw [show w.server.transaction i = w.transaction i from rfl, hdraw] at h
      obtain ⟨-, rfl⟩ := Prod.mk.inj h
      exact moves_of_skip ds hlock hnext
    | some rows =>
      rw [show w.server.transaction i = w.transaction i from rfl, hdraw] at h
      obtain ⟨-, rfl⟩ := Prod.mk.inj h
      obtain ⟨hascending, hdrawn⟩ := hrows rows hdraw
      exact moves_of_rows ds hlock hnext hascending hdrawn

/-- A statement on a table that does not exist does nothing, except that numbers may be drawn. -/
theorem moves_of_lacks {t : LedgerTable} (hlacks : w.server.lacks q = some t)
    (hlock : ∀ ds, q = .insertEvents ds → (w.transaction i).holdsLock = true) :
    w.Moves i (w.after i q w.server) := by
  have htable : q.table? ≠ none := by
    intro hnone
    rw [Server.lacks, hnone] at hlacks
    cases hlacks
  cases q with
  | insertEvents ds => exact moves_of_skip ds (hlock ds rfl) (Int.le_refl _)
  | begin => exact absurd rfl htable
  | commit => exact absurd rfl htable
  | rollback => exact absurd rfl htable
  | abandon => exact absurd rfl htable
  | _ => exact .rests ⟨List.Sublist.refl _, rfl, fun _ => ⟨rfl, rfl⟩, rfl, rfl⟩

/-- What a statement may do that the server carries out. -/
theorem Executes.moves (hmay : ∀ ds, q = .insertEvents ds → w.MayInsert i)
    (h : w.Executes i q a s) : w.Moves i (w.after i q s) := by
  obtain ⟨hfree, hopen, hdone⟩ := h
  have hlock : ∀ ds, q = .insertEvents ds → (w.transaction i).holdsLock = true := by
    rintro ds rfl
    exact (hmay ds rfl).holdsLock (hopen rfl)
  have hcases : (∃ t, w.server.lacks q = some t ∧ s = w.server) ∨
      w.server.Executes i q a s ∨ w.server.perform i q = (a, s) := by
    rcases hdone with hexecutes | hexecute
    · exact .inr (.inl hexecutes)
    · unfold Server.execute at hexecute
      split at hexecute
      next t hlacks => exact .inl ⟨t, hlacks, (Prod.mk.inj hexecute).2.symm⟩
      next => exact .inr (.inr hexecute)
  rcases hcases with ⟨t, hlacks, rfl⟩ | hdone
  · exact moves_of_lacks hlacks hlock
  · cases q with
    | insertEvents ds => exact moves_of_insert (hlock ds rfl) hdone
    | _ =>
      have hmoves := moves_of_perform (i := i) (w := w) (fun _ hq => by cases hq) hfree
      rwa [hdone.elim id id] at hmoves

/-- **What a statement may do**, however it is answered, if rows are inserted under the lock. -/
theorem Answers.moves (hmay : ∀ ds, q = .insertEvents ds → w.MayInsert i)
    (h : w.Answers i q a w') : w.Moves i w' := by
  cases h with
  | executed h hw => exact hw ▸ h.moves hmay
  | lost ha h hw => exact hw ▸ h.moves hmay
  | failed ha hw =>
    exact hw ▸ .rests ⟨List.Sublist.refl _, rfl, fun _ => ⟨rfl, rfl⟩, rfl, rfl⟩
  | drew ha hq hopen hnext hw =>
    subst hq
    exact hw ▸ moves_of_skip _ ((hmay _ rfl).holdsLock hopen) hnext

end SharedServer

end EventLedger
