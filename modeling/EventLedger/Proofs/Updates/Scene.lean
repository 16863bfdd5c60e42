import EventLedger.Proofs.MemoryStorage
import EventLedger.Proofs.Requests

/-!
# Updates among other clients

One call of a store, seen from outside: it makes one request after another, each answered by the
storage in memory or by surroundings that may answer as they like, and between two requests the
other clients commit and delete as they like.  The turns of the call record what each of its
requests did to the log.

A batch identifier that the call was given is nobody else's: no event is stored under it when it is
given out, and the others never bring it.

## Main definitions

* `Turn` — a request of the call with its answer, and the log before and after it.
* `Scene` — the log, whether the caller has cancelled, and the turns of the call so far.
* `Scene.Moves`, `Scene.Serves`, `Scene.Goes` — what the others do, how a request is answered, and
  both in a row.

## Main results

* `Scene.Inv.goes` — every turn keeps the log coherent and the token fired.
* `Scene.rests_of_runsTo` — a part of a call that makes idle requests only does nothing to the log.
-/

namespace EventLedger

variable {σ ε α : Type}

/-- A request of a call with its answer. -/
structure Turn (σ ε : Type) where
  /-- The request. -/
  request : StoreRequest σ ε
  /-- The answer. -/
  answer : request.Answer
  /-- The log right before the request. -/
  before : EventLog
  /-- The log right after it. -/
  after : EventLog
  /-- Whether the caller had cancelled by then. -/
  fired : Bool

namespace Turn

/-- The request is a commit. -/
def IsCommit (n : Turn σ ε) : Prop := ∃ key b ps, n.request = .storage (.commit key b ps)

/-- The request brings a snapshot. -/
def BringsSnapshot (n : Turn σ ε) : Prop := ∃ snapshot, n.request = .storage (.storeSnapshot snapshot)

/-- The request is the question whether the caller has cancelled, and it was denied. -/
def Passes : Turn σ ε → Prop
  | ⟨.isCancelled, cancelled, _, _, _⟩ => cancelled = false
  | _ => False

/-- The request has neither changed the log nor brought a snapshot. -/
def AddsNothing (n : Turn σ ε) : Prop := n.after = n.before ∧ ¬n.BringsSnapshot

end Turn

/-- What a call is part of. -/
structure Scene (σ ε : Type) where
  /-- The events. -/
  log : EventLog
  /-- Whether the caller has cancelled. -/
  fired : Bool
  /-- The batch identifiers that the call was given. -/
  issued : List Uuid
  /-- The turns of the call, the newest first. -/
  turns : List (Turn σ ε)

namespace Scene

/-- The scene when a call begins over a storage in memory. -/
def start (m : MemoryStorage) (fired : Bool) : Scene σ ε := ⟨m.events, fired, [], []⟩

/-- What the others may do: any requests to the storage, with batches under identifiers of their own.
A caller that has cancelled stays so. -/
structure Moves (s s' : Scene σ ε) : Prop where
  requests : ∃ qs, (∀ key b ps, .commit key b ps ∈ qs → b ∉ s.issued) ∧
    s'.log = (MemoryStorage.run ⟨s.log, .empty⟩ qs).events
  fired : s.fired = true → s'.fired = true
  issued : s'.issued = s.issued
  turns : s'.turns = s.turns

/-- The answers to a request, each with the log after it.  The snapshot store, the cache, the clock,
chance and the caller's decision may answer as they like. -/
def Answers (s : Scene σ ε) : (q : StoreRequest σ ε) → q.Answer → EventLog → Prop
  | .storage q, a, l =>
    if q.aboutSnapshots then l = s.log
    else ∃ shelf, MemoryStorage.answer ⟨s.log, .empty⟩ s.fired q = (a, ⟨l, shelf⟩)
  | .isCancelled, cancelled, l => cancelled = s.fired ∧ l = s.log
  | .pause _, cancelled, l => (cancelled = true → s.fired = true) ∧ l = s.log
  | .freshId, b, l => s.log.Unused b ∧ l = s.log
  | _, _, l => l = s.log

/-- The batch identifier that an answer gives out. -/
def given : (q : StoreRequest σ ε) → q.Answer → List Uuid
  | .freshId, b => [b]
  | _, _ => []

/-- A request of the call is answered. -/
def Serves (s : Scene σ ε) (q : StoreRequest σ ε) (a : q.Answer) (s' : Scene σ ε) : Prop :=
  ∃ l, s.Answers q a l ∧
    s' = ⟨l, s.fired, given q a ++ s.issued, ⟨q, a, s.log, l, s.fired⟩ :: s.turns⟩

/-- A request of the call is answered after the others have done as they like. -/
def Goes (s : Scene σ ε) (q : StoreRequest σ ε) (a : q.Answer) (s' : Scene σ ε) : Prop :=
  ∃ s₁, s.Moves s₁ ∧ s₁.Serves q a s'

/-- What holds at every moment. -/
structure Inv (s : Scene σ ε) : Prop where
  coherent : s.log.Coherent
  fired : ∀ n ∈ s.turns, n.fired = true → s.fired = true
  /-- A caller that had cancelled at a turn had cancelled at every later one. -/
  ordered : s.turns.Pairwise fun later earlier => earlier.fired = true → later.fired = true
  passes : ∀ n ∈ s.turns, n.Passes → n.fired = false

/-- From `s` to `s'` the call has made requests that satisfy `P`, none of which changed the log, and
what was not stored under its identifiers is not stored there. -/
structure Rests (P : StoreRequest σ ε → Prop) (s s' : Scene σ ε) : Prop where
  turns : ∃ new, s'.turns = new ++ s.turns ∧ ∀ n ∈ new, P n.request ∧ n.after = n.before
  issued : ∀ b ∈ s.issued, b ∈ s'.issued
  unused : ∀ b ∈ s.issued, s.log.Unused b → s'.log.Unused b

variable {s s₁ s' : Scene σ ε} {q : StoreRequest σ ε} {a : q.Answer} {P : StoreRequest σ ε → Prop}

theorem inv_start {m : MemoryStorage} (hm : m.Reachable) (fired : Bool) :
    (start m fired : Scene σ ε).Inv where
  coherent := hm.coherent
  fired := by
    intro n hn
    cases hn
  ordered := .nil
  passes := by
    intro n hn
    cases hn

/-! ### The others -/

/-- The others may rest. -/
theorem Moves.refl (s : Scene σ ε) : s.Moves s where
  requests := ⟨[], by simp, rfl⟩
  fired := id
  issued := rfl
  turns := rfl

theorem Inv.moves (h : s.Inv) (hm : s.Moves s₁) : s₁.Inv := by
  obtain ⟨⟨qs, -, hlog⟩, hfired, -, hturns⟩ := hm
  constructor
  · rw [hlog]
    exact MemoryStorage.coherent_run h.coherent qs
  · rw [hturns]
    intro n hn hnf
    exact hfired (h.fired n hn hnf)
  · rw [hturns]
    exact h.ordered
  · rw [hturns]
    exact h.passes

/-- The others store nothing under an identifier of the call. -/
theorem Moves.unused (hm : s.Moves s₁) (h : s.Inv) {b : Uuid} (hb : b ∈ s.issued)
    (hunused : s.log.Unused b) : s₁.log.Unused b := by
  obtain ⟨⟨qs, hqs, hlog⟩, -, -, -⟩ := hm
  rw [hlog]
  refine MemoryStorage.unused_run h.coherent hunused ?_
  rintro q hq key ps rfl
  exact hqs key b ps hq hb

/-! ### Answers -/

/-- A request that leaves events does not change the log. -/
theorem Answers.log_eq {l : EventLog} (ha : s.Answers q a l) (hq : q.LeavesEvents) : l = s.log := by
  cases q with
  | storage q =>
    simp only [Answers] at ha
    split at ha
    · exact ha
    · obtain ⟨shelf, ha⟩ := ha
      have hlog := congrArg (fun r => r.2.events) ha
      rw [MemoryStorage.answer] at hlog
      split at hlog
      · exact hlog.symm
      · cases q with
        | commit => exact hq.elim
        | delete => exact hq.elim
        | _ => exact hlog.symm
  | isCancelled => exact ha.2
  | pause => exact ha.2
  | freshId => exact ha.2
  | _ => exact ha

/-- An answer keeps the log coherent. -/
theorem Answers.coherent {l : EventLog} (ha : s.Answers q a l) (h : s.log.Coherent) :
    l.Coherent := by
  cases q with
  | storage q =>
    simp only [Answers] at ha
    split at ha
    · rw [ha]
      exact h
    · obtain ⟨shelf, ha⟩ := ha
      have hlog : (MemoryStorage.answer ⟨s.log, .empty⟩ s.fired q).2.events = l :=
        congrArg (fun r => r.2.events) ha
      rw [MemoryStorage.answer] at hlog
      split at hlog
      · rw [← hlog]
        exact h
      · rw [← hlog]
        exact MemoryStorage.coherent_serve h q
  | _ =>
    rw [ha.log_eq trivial]
    exact h

theorem Inv.serves (h : s.Inv) (hs : s.Serves q a s') : s'.Inv := by
  obtain ⟨l, ha, rfl⟩ := hs
  constructor
  · exact ha.coherent h.coherent
  · intro n hn hnf
    rcases List.mem_cons.1 hn with rfl | hn
    · exact hnf
    · exact h.fired n hn hnf
  · exact List.pairwise_cons.2 ⟨h.fired, h.ordered⟩
  · intro n hn hpass
    rcases List.mem_cons.1 hn with rfl | hn
    · cases q with
      | isCancelled => exact ha.1.symm.trans hpass
      | _ => exact hpass.elim
    · exact h.passes n hn hpass

/-- **Every turn keeps the log coherent and the token fired.** -/
theorem Inv.goes (hg : s.Goes q a s') (h : s.Inv) : s'.Inv := by
  obtain ⟨s₁, hm, hs⟩ := hg
  exact (h.moves hm).serves hs

theorem inv_of_runsTo {c : StoreCall σ ε α} {r : Except Error α}
    (hrun : Call.RunsTo Goes c s r s') (h : s.Inv) : s'.Inv :=
  hrun.keeps Inv.goes h

/-- An identifier stays given out. -/
theorem issued_of_runsTo {c : StoreCall σ ε α} {r : Except Error α}
    (hrun : Call.RunsTo Goes c s r s') : ∀ b ∈ s.issued, b ∈ s'.issued := by
  refine hrun.keeps (Q := fun s' => ∀ b ∈ s.issued, b ∈ s'.issued) ?_ fun _ hb => hb
  rintro s₁ q a s₂ ⟨s₀, hm, l, -, rfl⟩ h b hb
  have hold := h b hb
  rw [← hm.issued] at hold
  exact List.mem_append_right _ hold

/-! ### Parts of a call that do nothing to the log -/

theorem Rests.refl (s : Scene σ ε) : Rests P s s where
  turns := ⟨[], rfl, by simp⟩
  issued := fun _ hb => hb
  unused := fun _ _ hunused => hunused

theorem Rests.trans (h : Rests P s s₁) (h' : Rests P s₁ s') : Rests P s s' := by
  obtain ⟨new, hnew, hall⟩ := h.turns
  obtain ⟨new', hnew', hall'⟩ := h'.turns
  refine ⟨⟨new' ++ new, ?_, ?_⟩, fun b hb => h'.issued b (h.issued b hb),
    fun b hb hunused => h'.unused b (h.issued b hb) (h.unused b hb hunused)⟩
  · rw [hnew', hnew, List.append_assoc]
  · intro n hn
    rcases List.mem_append.1 hn with hn | hn
    · exact hall' n hn
    · exact hall n hn

theorem Goes.rests (hg : s.Goes q a s') (h : s.Inv) (hq : P q) (hP : ∀ q, P q → q.LeavesEvents) :
    Rests P s s' := by
  obtain ⟨s₁, hm, l, ha, rfl⟩ := hg
  have hl := ha.log_eq (hP q hq)
  refine ⟨⟨[⟨q, a, s₁.log, l, s₁.fired⟩], ?_, ?_⟩, ?_, ?_⟩
  · rw [List.singleton_append, ← hm.turns]
  · intro n hn
    obtain rfl := List.mem_singleton.1 hn
    exact ⟨hq, hl⟩
  · intro b hb
    rw [← hm.issued] at hb
    exact List.mem_append_right _ hb
  · intro b hb hunused
    rw [hl]
    exact hm.unused h hb hunused

/-- **A part of a call that makes requests of such a kind does nothing to the log.** -/
theorem rests_of_runsTo {c : StoreCall σ ε α} {r : Except Error α} (hc : Call.Asks P c)
    (hP : ∀ q, P q → q.LeavesEvents) (hrun : Call.RunsTo Goes c s r s') (h : s.Inv) :
    Rests P s s' :=
  (hc.keeps_of_runsTo (Q := fun s' => s'.Inv ∧ Rests P s s')
    (fun hq hg hQ => ⟨hQ.1.goes hg, hQ.2.trans (hg.rests hQ.1 hq hP)⟩) hrun ⟨h, .refl s⟩).2

end Scene

end EventLedger
