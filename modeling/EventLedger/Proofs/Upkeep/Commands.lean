import EventLedger.Admin.Output
import EventLedger.Proofs.Call.Discipline
import EventLedger.Proofs.MemoryStorage

/-!
# Maintenance commands by themselves

A maintenance command at work on a storage in memory, with an output and nobody else.  In a calm run
the storage answers every request and the caller does not cancel.  In any other run a request to the
storage may fail instead, before anything is done, and the caller's token may be found fired at any
moment.  The output does what it is asked as long as it is not broken.

## Main definitions

* `AdminCall.fromMemory` — a storage in memory, as commands ask it.
* `AdminCall.Serves` — how a request of a command is answered.

## Main results

* `AdminCall.serves_answer` — a storage in memory answers in this way.
* `AdminCall.cases_of_checkLive`, `AdminCall.cases_of_storage` — what a request comes to.
* `AdminCall.runsTo_storage`, `AdminCall.runsTo_storage_refused` — what it may come to.
-/

namespace EventLedger.AdminCall

open Call (RunsTo)

/-- A storage in memory that is told whether the caller has cancelled. -/
def fromMemory (q : StorageRequest) (cancelled : Bool) (m : MemoryStorage) :
    q.Answer × MemoryStorage :=
  m.answer cancelled q

/-- How a request of a command is answered: by a storage that is told whether the caller has
cancelled and by the output, or, unless the run is calm, with a failure of the storage that has done
nothing.  In a calm run the caller does not cancel. -/
inductive Serves (calm : Prop) (w : MemoryStorage × Output) :
    (q : AdminRequest) → q.Answer → MemoryStorage × Output → Prop
  | answered {cancelled : Bool} {q : AdminRequest} (hcalm : calm → cancelled = false) :
      Serves calm w q (answer fromMemory cancelled q w).1 (answer fromMemory cancelled q w).2
  | refused {q : StorageRequest} (e : Error) (hcalm : ¬calm) :
      Serves calm w (.storage q) (.error e) w

variable {calm : Prop} {w w' : MemoryStorage × Output} {m : MemoryStorage} {o : Output}

/-- A command may be answered by a storage in memory whose caller has not cancelled. -/
theorem serves_answer (calm : Prop) (w : MemoryStorage × Output) (q : AdminRequest) :
    Serves calm w q (answer fromMemory false q w).1 (answer fromMemory false q w).2 :=
  .answered fun _ => rfl

/-- The check of the token changes nothing, and in a calm run it is passed. -/
theorem cases_of_checkLive {r : Except AdminError Unit}
    (h : RunsTo (Serves calm) checkLive w r w') :
    w' = w ∧ (r = .ok () ∨ ¬calm ∧ ∃ e, r = .error e) := by
  obtain ⟨a, w₁, ha, hrest⟩ := RunsTo.of_ask_bind h
  cases ha with
  | @answered cancelled _ hcalm =>
    cases cancelled with
    | false =>
      cases hrest
      exact ⟨rfl, .inl rfl⟩
    | true =>
      cases hrest
      exact ⟨rfl, .inr ⟨fun h => Bool.false_ne_true (hcalm h).symm, _, rfl⟩⟩

/-- The output does not see what the storage is asked. -/
theorem answer_storage {cancelled : Bool} {q : StorageRequest} {a : q.Answer} {m' : MemoryStorage}
    (h : m.answer cancelled q = (a, m')) (o : Output) :
    answer fromMemory cancelled (.storage q) (m, o) = (a, m', o) :=
  congrArg (fun x => (x.1, x.2, o)) h

/-- A request to the storage does what the storage does, or fails and does nothing, and in a calm
run it does not fail in this way. -/
theorem cases_of_storage {q : StorageRequest} {r : Except AdminError q.Result}
    (h : RunsTo (Serves calm) (storage q) (m, o) r w') :
    r = (m.serve q).1.mapError .ledger ∧ w' = ((m.serve q).2, o) ∨
      ¬calm ∧ w' = (m, o) ∧ ∃ e, r = .error (.ledger e) := by
  obtain ⟨a, w₁, ha, hrest⟩ := RunsTo.of_ask_bind h
  obtain ⟨hr, hw⟩ := hrest.of_ofExcept
  cases ha with
  | @answered cancelled _ hcalm =>
    rcases m.answer_cases cancelled q with hrefused | hserve
    · cases cancelled with
      | false =>
        rw [answer_storage (m.answer_false q) o] at hr hw
        exact .inl ⟨hr, hw⟩
      | true =>
        rw [answer_storage hrefused o] at hr hw
        exact .inr ⟨fun hc => Bool.false_ne_true (hcalm hc).symm, hw, .cancelled, hr⟩
    · rw [answer_storage hserve o] at hr hw
      exact .inl ⟨hr, hw⟩
  | refused e hcalm => exact .inr ⟨hcalm, hw, e, hr⟩

/-- A request to the storage may be answered. -/
theorem runsTo_storage (calm : Prop) (m : MemoryStorage) (o : Output) (q : StorageRequest) :
    RunsTo (Serves calm) (storage q) (m, o) ((m.serve q).1.mapError .ledger)
      ((m.serve q).2, o) := by
  have hserves := serves_answer calm (m, o) (.storage q)
  rw [answer_storage (m.answer_false q) o] at hserves
  exact .waiting hserves (.ofExcept ((m.serve q).1.mapError AdminError.ledger) _)

/-- A request to the storage may fail. -/
theorem runsTo_storage_refused (m : MemoryStorage) (o : Output) (q : StorageRequest) (e : Error) :
    RunsTo (Serves False) (storage q) (m, o) (.error (.ledger e)) (m, o) :=
  .waiting (.refused e id) (.failed _ _)

end EventLedger.AdminCall
