import EventLedger.Proofs.MemoryStorage
import EventLedger.Proofs.Tables.Paging
import Mathlib.Logic.Relation

/-!
# Committers and readers on one server

Any number of clients work on one server at a time.  Each has a session of its own and goes through
the statements of its storage requests one by one; readers go through all events page by page.
Statements fail or their answers get lost, clients are left standing, and their transactions are cut
off.  A transaction that has drawn numbers keeps the lock until it ends, so its numbers exceed all
visible ones, and no reader gets ahead of a number that becomes visible later.

## Main definitions

* `Traffic.Reader`, `Traffic.Client`, `Traffic` — the clients and their server.
* `Traffic.Step`, `Traffic.Runs`, `Traffic.Reachable` — what happens next, and runs.
* `Traffic.InOrder` — numbers become visible in the order in which they are drawn.
* `Traffic.Good` — what every step keeps.
* `Traffic.play?` — a run that is played on a server that runs.

## Main results

* `Traffic.Step.good` — every step keeps what is good.
* `Traffic.inOrder_of_reachable` — **no reader overtakes a transaction that is open.**
-/

namespace EventLedger

/-- A reader that goes through all events of a storage in tables. -/
structure Traffic.Reader where
  /-- The number that it began at. -/
  start : Nat
  /-- Where it goes on. -/
  cursor : Nat
  /-- The pages that it was given, oldest first. -/
  pages : List Page := []
  /-- What is left of its call for the next page. -/
  call : TableCall Page

namespace Traffic.Reader

/-- The events that a reader was given, in their order. -/
def received (r : Traffic.Reader) : List CommittedEvent := r.pages.flatMap (·.events)

/-- The reader asks for a page from where it goes on. -/
def ask (r : Traffic.Reader) (strategy : RetryStrategy) (size : Nat) : Traffic.Reader :=
  { r with call := TableStorage.page strategy r.cursor size }

/-- The reader takes a page. -/
def take (r : Traffic.Reader) (p : Page) : Traffic.Reader :=
  { r with cursor := p.next, pages := r.pages ++ [p] }

end Traffic.Reader

/-- A client of a server. -/
inductive Traffic.Client
  /-- A storage request, as far as it has got. -/
  | request (q : StorageRequest) (call : TableCall q.Result)
  /-- A reader of all events. -/
  | reader (r : Traffic.Reader)

/-- The client waits for an answer to `q` and goes on with `a`. -/
inductive Traffic.Client.Gets (q : RetryRequest statementInterface) (a : q.Answer) :
    Traffic.Client → Traffic.Client → Prop
  | request {sq : StorageRequest} {next : q.Answer → TableCall sq.Result} :
      Gets q a (.request sq (.waiting q next)) (.request sq (next a))
  | reader {r : Traffic.Reader} {next : q.Answer → TableCall Page}
      (hcall : r.call = .waiting q next) :
      Gets q a (.reader r) (.reader { r with call := next a })

/-- Clients on one server, each in a session of its own. -/
structure Traffic where
  /-- The server. -/
  shared : SharedServer
  /-- The clients in the order in which they came, each with its place as its session. -/
  clients : List Traffic.Client := []

namespace Traffic

/-- What happens next. -/
inductive Step : Traffic → Traffic → Prop
  /-- A client comes with a storage request. -/
  | request {s : Traffic} (strategy : RetryStrategy) (q : StorageRequest) :
      Step s { s with clients := s.clients ++ [.request q (TableStorage.serve strategy q)] }
  /-- A reader comes. -/
  | reader {s : Traffic} (strategy : RetryStrategy) (start size : Nat) :
      Step s { s with
        clients := s.clients ++
          [.reader ⟨start, start, [], TableStorage.page strategy start size⟩] }
  /-- A client is answered. -/
  | answer {s : Traffic} {i : Nat} {c c' : Traffic.Client} {q : RetryRequest statementInterface}
      {a : q.Answer} {w : SharedServer} : s.clients[i]? = some c → Traffic.Client.Gets q a c c' →
      s.shared.Serves i q a w → Step s ⟨w, s.clients.set i c'⟩
  /-- A reader takes the page that it was given, and asks for the next one. -/
  | take {s : Traffic} {i : Nat} {r : Traffic.Reader} {p : Page} (strategy : RetryStrategy)
      (size : Nat) : s.clients[i]? = some (.reader r) → r.call = .done p →
      Step s { s with clients := s.clients.set i (.reader ((r.take p).ask strategy size)) }
  /-- A reader that was given no page asks again. -/
  | retry {s : Traffic} {i : Nat} {r : Traffic.Reader} {e : TableError} (strategy : RetryStrategy)
      (size : Nat) : s.clients[i]? = some (.reader r) → r.call = .failed e →
      Step s { s with clients := s.clients.set i (.reader (r.ask strategy size)) }
  /-- The transaction of a session is cut off. -/
  | cutOff {s : Traffic} (i : Nat) : Step s { s with shared := s.shared.cutOff i }

/-- The later states. -/
abbrev Runs : Traffic → Traffic → Prop := Relation.ReflTransGen Step

/-- The states that come to be from a server at rest. -/
def Reachable (s : Traffic) : Prop :=
  ∃ server : Server, server.AtRest ∧ Runs ⟨{ server := server }, []⟩ s

/-- Numbers become visible in the order in which they are drawn. -/
structure InOrder (s : Traffic) : Prop where
  /-- The rows of an open transaction have numbers that it has drawn, -/
  held : ∀ i, ∀ row ∈ (s.shared.transaction i).rows, s.shared.drawn i row.global
  /-- and these exceed all visible ones. -/
  above : ∀ i g, s.shared.drawn i g → ∀ row ∈ s.shared.visible, row.global < g
  /-- What was drawn is not given back. -/
  spent : ∀ s', Runs s s' → s.shared.server.nextGlobal ≤ s'.shared.server.nextGlobal ∧
    ∀ i g, s.shared.drawn i g → g < s'.shared.server.nextGlobal
  /-- A reader has not passed a number that becomes visible later, -/
  ahead : ∀ (i : Nat) r, s.clients[i]? = some (.reader r) → ∀ s', Runs s s' →
    ∀ row ∈ s'.shared.visible, row ∉ s.shared.visible → (r.start : Int) ≤ row.global →
      (r.cursor : Int) ≤ row.global
  /-- and was given every visible one that it has passed. -/
  passed : ∀ (i : Nat) r, s.clients[i]? = some (.reader r) → ∀ row ∈ s.shared.visible,
    (r.start : Int) ≤ row.global → row.global < (r.cursor : Int) →
      ∃ e ∈ r.received, (e.globalSequence : Int) = row.global

/-! ### What every step keeps -/

/-- The client goes on as it should, whatever the others do. -/
def Client.Good (i : Nat) (w : SharedServer) : Client → Prop
  | .request _ call => Call.Keeps (SharedServer.discipline i) (fun _ _ => True) call w
  | .reader r =>
    w.Covers r.start r.cursor r.received ∧
      Call.Keeps (SharedServer.discipline i)
        (fun w res => ∀ p, res = .ok p → w.Covers r.cursor p.next p.events) r.call w

/-- What holds at every moment. -/
structure Good (s : Traffic) : Prop where
  inv : s.shared.Inv
  clients : ∀ (i : Nat) c, s.clients[i]? = some c → c.Good i s.shared

variable {s s' : Traffic} {w w' : SharedServer} {i : Nat} {c c' : Client}

/-- What the others do changes nothing of that. -/
theorem Client.Good.rely (h : c.Good i w) (hrely : SharedServer.Rely i w w') : c.Good i w' := by
  cases c with
  | request q call => exact Call.Keeps.of_rely (fun _ => trivial) hrely h
  | reader r =>
    refine ⟨h.1.follows hrely.1, Call.Keeps.of_rely ?_ hrely h.2⟩
    exact fun hpost p hp => (hpost p hp).follows hrely.1

/-- A client that is answered goes on as it should. -/
theorem Client.Good.gets {q : RetryRequest statementInterface} {a : q.Answer} (h : c.Good i w)
    (hw : w.Inv) (hgets : Gets q a c c') (hserves : w.Serves i q a w') :
    w.Moves i w' ∧ c'.Good i w' := by
  have hrefl : SharedServer.Rely i w w := ⟨.refl w, id⟩
  cases hgets with
  | request =>
    obtain ⟨hmay, hnext⟩ := h w hrefl hw
    exact ⟨hserves.moves hmay, hnext a w' hserves⟩
  | reader hcall =>
    obtain ⟨hcovers, hkeeps⟩ := h
    rw [hcall] at hkeeps
    obtain ⟨hmay, hnext⟩ := hkeeps w hrefl hw
    have hmoves := hserves.moves hmay
    exact ⟨hmoves, hcovers.follows (hmoves.follows hw), hnext a w' hserves⟩

/-- A reader that asks for a page. -/
theorem Client.good_ask {r : Reader} (hw : w.Inv) (h : w.Covers r.start r.cursor r.received)
    (strategy : RetryStrategy) (size : Nat) : Client.Good i w (.reader (r.ask strategy size)) :=
  ⟨h, SharedServer.keeps_page strategy r.cursor size hw⟩

/-- A reader that takes a page. -/
theorem Client.covers_take {r : Reader} {p : Page} (h : Client.Good i w (.reader r))
    (hcall : r.call = .done p) : w.Covers r.start (r.take p).cursor (r.take p).received := by
  obtain ⟨hcovers, hkeeps⟩ := h
  rw [hcall] at hkeeps
  have hreceived : (r.take p).received = r.received ++ p.events := by
    simp [Reader.received, Reader.take]
  rw [hreceived]
  exact hcovers.append (hkeeps p rfl)

/-- A client that comes. -/
theorem Good.join (h : s.Good) {c : Client} (hc : c.Good s.clients.length s.shared) :
    Good { s with clients := s.clients ++ [c] } := by
  refine ⟨h.inv, ?_⟩
  intro j c' hj
  rcases Nat.lt_or_ge j s.clients.length with hlt | hge
  · rw [List.getElem?_append_left hlt] at hj
    exact h.clients j c' hj
  · rw [List.getElem?_append_right hge, List.getElem?_singleton] at hj
    split at hj
    next hzero =>
      obtain rfl := Option.some.inj hj
      obtain rfl : j = s.clients.length := by omega
      exact hc
    next => cases hj

/-- A client that does something. -/
theorem Good.change (h : s.Good) (hw : w.Inv) (hi : s.clients[i]? = some c) (hc : c'.Good i w)
    (hothers : ∀ j, j ≠ i → SharedServer.Rely j s.shared w) :
    Good ⟨w, s.clients.set i c'⟩ := by
  refine ⟨hw, ?_⟩
  intro j d hj
  by_cases hij : j = i
  · subst hij
    rw [List.getElem?_set_self (List.getElem?_eq_some_iff.1 hi).1] at hj
    obtain rfl := Option.some.inj hj
    exact hc
  · rw [List.getElem?_set_ne (Ne.symm hij)] at hj
    exact (h.clients j d hj).rely (hothers j hij)

/-- **What a step does.** -/
theorem Step.good (hs : s.Good) (h : Step s s') : s'.Good ∧ s.shared.Follows s'.shared := by
  have hrefl : ∀ j, SharedServer.Rely j s.shared s.shared := fun _ => ⟨.refl _, id⟩
  cases h with
  | request strategy q =>
    exact ⟨hs.join (SharedServer.keeps_serve strategy q hs.inv), .refl _⟩
  | reader strategy start size =>
    refine ⟨hs.join ⟨.refl s.shared start, ?_⟩, .refl _⟩
    exact SharedServer.keeps_page strategy start size hs.inv
  | answer hi hgets hserves =>
    obtain ⟨hmoves, hc⟩ := (hs.clients _ _ hi).gets hs.inv hgets hserves
    have hw := hmoves.inv hs.inv
    exact ⟨hs.change hw hi hc fun j hij => hmoves.rely hs.inv hij, hmoves.follows hs.inv⟩
  | take strategy size hi hcall =>
    have hcovers := Client.covers_take (hs.clients _ _ hi) hcall
    exact ⟨hs.change hs.inv hi (Client.good_ask hs.inv hcovers strategy size) fun j _ => hrefl j,
      .refl _⟩
  | retry strategy size hi _ =>
    have hcovers := (hs.clients _ _ hi).1
    exact ⟨hs.change hs.inv hi (Client.good_ask hs.inv hcovers strategy size) fun j _ => hrefl j,
      .refl _⟩
  | cutOff i =>
    have hmoves := SharedServer.moves_cutOff s.shared i
    refine ⟨⟨hmoves.inv hs.inv, fun j c hj => ?_⟩, hmoves.follows hs.inv⟩
    exact (hs.clients j c hj).rely (SharedServer.rely_cutOff hs.inv j i)

theorem Runs.good (hs : s.Good) (h : Runs s s') : s'.Good ∧ s.shared.Follows s'.shared := by
  induction h with
  | refl => exact ⟨hs, .refl _⟩
  | tail _ hstep ih =>
    obtain ⟨hgood, hfollows⟩ := ih
    obtain ⟨hgood', hfollows'⟩ := hstep.good hgood
    exact ⟨hgood', hfollows.trans hfollows'⟩

theorem Reachable.good (h : Reachable s) : s.Good := by
  obtain ⟨server, hrest, hruns⟩ := h
  refine (hruns.good ⟨.of_atRest hrest, ?_⟩).1
  intro i c hi
  cases hi

/-! ### Runs that are played -/

/-- The answer of a server that runs to a request, unless it has to wait. -/
def reply? (w : SharedServer) (i : Nat) :
    (q : RetryRequest statementInterface) → Option (q.Answer × SharedServer)
  | .inner q =>
    if w.server.isBlocked i q || q.isInside && w.cut i then none
    else
      let r := w.server.execute i q
      some (r.1, w.after i q r.2)
  | .isCancelled => some (false, w)
  | .pause _ => some (false, w)
  | .sleep _ => some ((), w)
  | .decided .. => some ((), w)

/-- The reader among the clients that came at this place. -/
def reader? (s : Traffic) (i : Nat) : Option Reader :=
  match s.clients[i]? with
  | some (.reader r) => some r
  | _ => none

/-- What is played next. -/
inductive Play
  /-- A client comes with a storage request. -/
  | request (q : StorageRequest)
  /-- A reader comes that begins at `start`. -/
  | reader (start : Nat)
  /-- A client is answered, or it is a reader that takes its page. -/
  | turn (i : Nat)
  /-- A transaction is cut off. -/
  | cutOff (i : Nat)

/-- The state after a turn of a client. -/
def turn? (s : Traffic) (i : Nat) : Option Traffic :=
  match s.clients[i]? with
  | some (.request sq (.waiting q next)) =>
    (reply? s.shared i q).map fun r => ⟨r.2, s.clients.set i (.request sq (next r.1))⟩
  | some (.reader ⟨start, cursor, pages, .waiting q next⟩) =>
    (reply? s.shared i q).map fun r =>
      ⟨r.2, s.clients.set i (.reader ⟨start, cursor, pages, next r.1⟩)⟩
  | some (.reader ⟨start, cursor, pages, .done p⟩) =>
    some { s with
      clients := s.clients.set i
        (.reader (((⟨start, cursor, pages, .done p⟩ : Reader).take p).ask .never 10)) }
  | _ => none

/-- The state after what is played, if it can be. -/
def play? (s : Traffic) : List Play → Option Traffic
  | [] => some s
  | .request q :: rest =>
    play? { s with clients := s.clients ++ [.request q (TableStorage.serve .never q)] } rest
  | .reader start :: rest =>
    play? { s with
      clients := s.clients ++
        [.reader ⟨start, start, [], TableStorage.page .never start 10⟩] } rest
  | .turn i :: rest => (s.turn? i).bind (play? · rest)
  | .cutOff i :: rest => play? { s with shared := s.shared.cutOff i } rest

theorem serves_of_reply? {q : RetryRequest statementInterface} {a : q.Answer}
    (h : reply? w i q = some (a, w')) : w.Serves i q a w' := by
  cases q with
  | inner q =>
    rw [reply?] at h
    split at h
    next => cases h
    next hfree =>
      obtain ⟨rfl, rfl⟩ := Prod.mk.inj (Option.some.inj h)
      obtain ⟨hblocked, hinside⟩ := not_or.1 (mt Bool.or_eq_true_iff.2 hfree)
      refine .executed ⟨Bool.not_eq_true _ ▸ hblocked, fun hq => ?_, .inr rfl⟩ rfl
      rw [hq, Bool.true_and, Bool.not_eq_true] at hinside
      exact hinside
  | _ =>
    obtain ⟨-, rfl⟩ := Prod.mk.inj (Option.some.inj h)
    rfl

theorem step_of_turn? (h : s.turn? i = some s') : Step s s' := by
  unfold turn? at h
  split at h
  next hi =>
    obtain ⟨⟨a, w⟩, hreply, rfl⟩ := Option.map_eq_some_iff.1 h
    exact .answer hi .request (serves_of_reply? hreply)
  next hi =>
    obtain ⟨⟨a, w⟩, hreply, rfl⟩ := Option.map_eq_some_iff.1 h
    exact .answer hi (.reader rfl) (serves_of_reply? hreply)
  next hi =>
    obtain rfl := Option.some.inj h
    exact .take .never 10 hi rfl
  next => cases h

theorem getElem?_of_reader? {r : Reader} (h : s.reader? i = some r) :
    s.clients[i]? = some (.reader r) := by
  unfold reader? at h
  split at h
  next hi =>
    obtain rfl := Option.some.inj h
    exact hi
  next => cases h

/-- **What is played is a run.** -/
theorem runs_of_play? : ∀ {plays : List Play} {s : Traffic}, s.play? plays = some s' → Runs s s'
  | [], s, h => by
    obtain rfl := Option.some.inj h
    exact .refl
  | .request q :: rest, s, h => .head (.request .never q) (runs_of_play? h)
  | .reader start :: rest, s, h => .head (.reader .never start 10) (runs_of_play? h)
  | .turn i :: rest, s, h => by
    obtain ⟨s₁, hturn, hrest⟩ := Option.bind_eq_some_iff.1 h
    exact .head (step_of_turn? hturn) (runs_of_play? hrest)
  | .cutOff i :: rest, s, h => .head (.cutOff i) (runs_of_play? h)

/-- **No reader overtakes a transaction that is open**, whatever the clients ask, in whatever order
they are answered, and whatever fails. -/
theorem inOrder_of_reachable (h : Reachable s) : s.InOrder where
  held _ _ hrow := h.good.inv.held hrow
  above _ _ hg _ hrow := h.good.inv.above hg hrow
  spent s' hruns := by
    have hnext := (hruns.good h.good).2.next
    exact ⟨hnext, fun i g hg => (h.good.inv.fresh hg).trans_le hnext⟩
  ahead i r hi s' hruns row hrow hnew hlow :=
    ((h.good.clients i _ hi).1.le_of_mem (hruns.good h.good).2 hrow hlow).resolve_left hnew
  passed i r hi := (h.good.clients i _ hi).1.events

/-- A batch is stored under the number 1; the transaction of another one is cut off once it has
drawn the number 2; a third one has drawn the number 3 when a reader takes its first page. -/
def crowded : List Play :=
  [.request (.commit MemoryStorage.sampleKey (.ofNat 1) (MemoryStorage.sampleBatch [1])),
    .request (.commit MemoryStorage.sampleKey (.ofNat 2) (MemoryStorage.sampleBatch [2])),
    .request (.commit MemoryStorage.sampleKey (.ofNat 3) (MemoryStorage.sampleBatch [2])),
    .reader 1, .turn 0, .turn 0, .turn 0, .turn 0, .turn 1, .turn 1, .turn 1, .turn 2, .cutOff 1,
    .turn 2, .turn 2, .turn 3, .turn 3, .turn 3]

/-- The reader goes on after the only visible number; the one that is drawn becomes visible after
that. -/
theorem inOrder_of_crowded : ∃ s r s', Reachable s ∧ s.InOrder ∧ s.shared.drawn 2 3 ∧
    s.shared.visible.map (·.global) = [1] ∧ s.clients[3]? = some (.reader r) ∧ r.start = 1 ∧
      r.cursor = 2 ∧ Runs s s' ∧ s'.shared.visible.map (·.global) = [1, 3] := by
  have hplay : (play? ⟨{ server := {} }, []⟩ crowded).any (fun s =>
      decide (s.shared.visible.map (·.global) = [1] ∧
        (s.shared.transaction 2).rows.map (·.global) = [3]) &&
      (s.reader? 3).any (fun r => decide (r.start = 1 ∧ r.cursor = 2)) &&
      (s.play? [.turn 2]).any fun s' => decide (s'.shared.visible.map (·.global) = [1, 3])) =
        true := by
    decide +kernel
  obtain ⟨s, hs, hfacts⟩ := (Option.any_eq_true _ _).1 hplay
  rw [Bool.and_eq_true, Bool.and_eq_true] at hfacts
  obtain ⟨⟨hrows, hreader⟩, hcommit⟩ := hfacts
  obtain ⟨hvisible, hpending⟩ := of_decide_eq_true hrows
  obtain ⟨r, hr, hcursor⟩ := (Option.any_eq_true _ _).1 hreader
  obtain ⟨hstart, hcursor⟩ := of_decide_eq_true hcursor
  obtain ⟨s', hs', hlater⟩ := (Option.any_eq_true _ _).1 hcommit
  have hrest : Server.AtRest {} := ⟨.nil, fun _ hr => absurd hr List.not_mem_nil, fun _ => rfl⟩
  have hreach : Reachable s := ⟨{}, hrest, runs_of_play? hs⟩
  have horder : s.InOrder := inOrder_of_reachable hreach
  obtain ⟨row, hrow, hglobal⟩ := List.map_eq_singleton_iff.1 hpending
  have hdrawn : s.shared.drawn 2 3 := by
    rw [← hglobal]
    exact horder.held 2 row (hrow ▸ List.mem_singleton_self row)
  exact ⟨s, r, s', hreach, horder, hdrawn, hvisible, getElem?_of_reader? hr, hstart, hcursor,
    runs_of_play? hs', of_decide_eq_true hlater⟩

end Traffic

end EventLedger
