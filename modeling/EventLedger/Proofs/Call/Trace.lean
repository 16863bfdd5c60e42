import EventLedger.Proofs.Call.Discipline

/-!
# Traces of calls

What a call does is the list of its requests with their answers.  Whatever the surroundings are, and
whatever others do between two requests, a run of the call leaves one of its traces behind; so what
holds of all traces holds of every run, and what surroundings are known to answer is said of the
exchanges alone.

## Main definitions

* `Exchange` — a request with its answer.
* `Call.Traces c t r` — the call `c` may make the exchanges `t` and end with `r`.
* `Call.Yields P c r` — with answers that satisfy `P` the call ends, and always with `r`.

## Main results

* `Call.traces_bind_iff` — a trace of one call after another.
* `Call.Asks.of_traces`, `Call.Ends.of_traces` — what a call asks and how it ends, trace by trace.
* `Call.RunsTo.exists_traces` — every run leaves a trace, with exchanges as its world answers.
-/

namespace EventLedger

/-- A request with its answer. -/
structure Exchange (I : Interface) where
  /-- The request. -/
  request : I.Request
  /-- The answer. -/
  answer : I.Answer request

namespace Call

variable {I : Interface} {ε φ α β : Type} {W : Type}

/-- The call may make these exchanges, one after the other, and end with `r`. -/
inductive Traces : Call I ε α → List (Exchange I) → Except ε α → Prop
  | done (a : α) : Traces (done a) [] (.ok a)
  | failed (e : ε) : Traces (failed e) [] (.error e)
  | waiting {q : I.Request} {next : I.Answer q → Call I ε α} {t : List (Exchange I)}
      {r : Except ε α} (a : I.Answer q) : Traces (next a) t r →
      Traces (waiting q next) (⟨q, a⟩ :: t) r

variable {c : Call I ε α} {f : α → Call I ε β} {t : List (Exchange I)} {q : I.Request}

@[simp] theorem traces_done_iff {a : α} {r : Except ε α} :
    Traces (done a : Call I ε α) t r ↔ t = [] ∧ r = .ok a := by
  constructor
  · rintro ⟨⟩
    exact ⟨rfl, rfl⟩
  · rintro ⟨rfl, rfl⟩
    exact .done a

@[simp] theorem traces_failed_iff {e : ε} {r : Except ε α} :
    Traces (failed e : Call I ε α) t r ↔ t = [] ∧ r = .error e := by
  constructor
  · rintro ⟨⟩
    exact ⟨rfl, rfl⟩
  · rintro ⟨rfl, rfl⟩
    exact .failed e

@[simp] theorem traces_waiting_iff {next : I.Answer q → Call I ε α} {r : Except ε α} :
    Traces (waiting q next) t r ↔ ∃ a rest, t = ⟨q, a⟩ :: rest ∧ Traces (next a) rest r := by
  constructor
  · rintro ⟨⟩
    exact ⟨_, _, rfl, ‹_›⟩
  · rintro ⟨a, rest, rfl, h⟩
    exact .waiting a h

@[simp] theorem traces_ofExcept_iff {x r : Except ε α} :
    Traces (ofExcept x : Call I ε α) t r ↔ t = [] ∧ r = x := by
  cases x <;> simp [ofExcept]

/-- **A trace of one call after another** is a trace of the first one, followed by one of the second
one unless the first one fails. -/
theorem traces_bind_iff {r : Except ε β} :
    Traces (c.bind f) t r ↔
      (∃ a t₁ t₂, t = t₁ ++ t₂ ∧ Traces c t₁ (.ok a) ∧ Traces (f a) t₂ r) ∨
        ∃ e, Traces c t (.error e) ∧ r = .error e := by
  constructor
  · intro h
    induction c generalizing t with
    | done a => exact .inl ⟨a, [], t, rfl, .done a, h⟩
    | failed e =>
      cases h
      exact .inr ⟨e, .failed e, rfl⟩
    | waiting q next ih =>
      cases h with
      | waiting a h =>
        rcases ih a h with ⟨b, t₁, t₂, rfl, hfirst, hsecond⟩ | ⟨e, hfirst, hr⟩
        · exact .inl ⟨b, ⟨q, a⟩ :: t₁, t₂, rfl, .waiting a hfirst, hsecond⟩
        · exact .inr ⟨e, .waiting a hfirst, hr⟩
  · rintro (⟨a, t₁, t₂, rfl, hfirst, hsecond⟩ | ⟨e, hfirst, rfl⟩)
    · generalize hr₁ : Except.ok a = r₁ at hfirst
      induction hfirst with
      | done a' =>
        cases hr₁
        exact hsecond
      | failed e => cases hr₁
      | waiting b _ ih => exact .waiting b (ih hr₁)
    · generalize hr₁ : Except.error e = r₁ at hfirst
      induction hfirst with
      | done a' => cases hr₁
      | failed e' =>
        cases hr₁
        exact .failed e
      | waiting b _ ih => exact .waiting b (ih hr₁)

/-- A trace of a request, with what follows its answer. -/
theorem traces_ask_bind_iff {f : I.Answer q → Call I ε β} {r : Except ε β} :
    Traces ((ask q).bind f) t r ↔ ∃ a rest, t = ⟨q, a⟩ :: rest ∧ Traces (f a) rest r :=
  traces_waiting_iff

/-- A trace of a call whose failure is a result. -/
theorem traces_outcome_iff {r : Except φ (Except ε α)} :
    Traces (c.outcome : Call I φ (Except ε α)) t r ↔ ∃ x, r = .ok x ∧ Traces c t x := by
  induction c generalizing t with
  | done a =>
    simp only [outcome, traces_done_iff]
    exact ⟨fun ⟨ht, hr⟩ => ⟨_, hr, ht, rfl⟩, fun ⟨x, hr, ht, hx⟩ => ⟨ht, hx ▸ hr⟩⟩
  | failed e =>
    simp only [outcome, traces_done_iff, traces_failed_iff]
    exact ⟨fun ⟨ht, hr⟩ => ⟨_, hr, ht, rfl⟩, fun ⟨x, hr, ht, hx⟩ => ⟨ht, hx ▸ hr⟩⟩
  | waiting q next ih =>
    simp only [outcome, traces_waiting_iff, ih]
    constructor
    · rintro ⟨a, rest, rfl, x, rfl, h⟩
      exact ⟨x, rfl, a, rest, rfl, h⟩
    · rintro ⟨x, rfl, a, rest, rfl, h⟩
      exact ⟨a, rest, rfl, x, rfl, h⟩

/-- A trace of a call that goes on with the result or the failure of another one. -/
theorem traces_outcome_bind_iff {f : Except ε α → Call I φ β} {r : Except φ β} :
    Traces (c.outcome.bind f) t r ↔
      ∃ x t₁ t₂, t = t₁ ++ t₂ ∧ Traces c t₁ x ∧ Traces (f x) t₂ r := by
  rw [traces_bind_iff]
  simp only [traces_outcome_iff]
  constructor
  · rintro (⟨_, t₁, t₂, rfl, ⟨x, hx, hfirst⟩, hsecond⟩ | ⟨e, ⟨x, hx, -⟩, -⟩)
    · obtain rfl := Except.ok.inj hx
      exact ⟨_, t₁, t₂, rfl, hfirst, hsecond⟩
    · cases hx
  · rintro ⟨x, t₁, t₂, rfl, hfirst, hsecond⟩
    exact .inl ⟨x, t₁, t₂, rfl, ⟨x, rfl, hfirst⟩, hsecond⟩

/-- The requests of a trace are of the kind that the call makes. -/
theorem Asks.of_traces {P : I.Request → Prop} {r : Except ε α} (hc : Asks P c)
    (h : Traces c t r) : ∀ x ∈ t, P x.request := by
  induction h with
  | done a => simp
  | failed e => simp
  | waiting a _ ih => exact List.forall_mem_cons.2 ⟨hc.1, ih (hc.2 a)⟩

/-- A trace ends as the call ends. -/
theorem Ends.of_traces {Q : Except ε α → Prop} {r : Except ε α} (hc : Ends Q c)
    (h : Traces c t r) : Q r := by
  induction h with
  | done a => exact hc
  | failed e => exact hc
  | waiting a _ ih => exact ih (hc a)

/-! ### Known answers -/

/-- With answers that satisfy `P` the call ends, and always with `r`. -/
def Yields (P : Exchange I → Prop) (c : Call I ε α) (r : Except ε α) : Prop :=
  (∃ t, Traces c t r ∧ ∀ x ∈ t, P x) ∧ ∀ t r', Traces c t r' → (∀ x ∈ t, P x) → r' = r

namespace Yields

variable {P : Exchange I → Prop}

theorem done (a : α) : Yields P (done a : Call I ε α) (.ok a) := by
  refine ⟨⟨[], .done a, by simp⟩, ?_⟩
  rintro t r' h -
  exact (traces_done_iff.1 h).2

theorem failed (e : ε) : Yields P (failed e : Call I ε α) (.error e) := by
  refine ⟨⟨[], .failed e, by simp⟩, ?_⟩
  rintro t r' h -
  exact (traces_failed_iff.1 h).2

theorem ofExcept (r : Except ε α) : Yields P (Call.ofExcept r : Call I ε α) r := by
  cases r with
  | ok a => exact done a
  | error e => exact failed e

/-- A request that may be answered, and goes on with the same result after every answer. -/
theorem waiting {next : I.Answer q → Call I ε α} {r : Except ε α} (hsome : ∃ a, P ⟨q, a⟩)
    (hnext : ∀ a, P ⟨q, a⟩ → Yields P (next a) r) : Yields P (waiting q next) r := by
  constructor
  · obtain ⟨a, ha⟩ := hsome
    obtain ⟨⟨t, ht, hP⟩, -⟩ := hnext a ha
    exact ⟨⟨q, a⟩ :: t, .waiting a ht, List.forall_mem_cons.2 ⟨ha, hP⟩⟩
  · intro t r' h hP
    obtain ⟨a, rest, rfl, hrest⟩ := traces_waiting_iff.1 h
    obtain ⟨ha, hP⟩ := List.forall_mem_cons.1 hP
    exact (hnext a ha).2 rest r' hrest hP

/-- **One call after another.** -/
theorem bind {a : α} {r : Except ε β} (hc : Yields P c (.ok a)) (hf : Yields P (f a) r) :
    Yields P (c.bind f) r := by
  constructor
  · obtain ⟨⟨t₁, ht₁, hP₁⟩, -⟩ := hc
    obtain ⟨⟨t₂, ht₂, hP₂⟩, -⟩ := hf
    refine ⟨t₁ ++ t₂, traces_bind_iff.2 (.inl ⟨a, t₁, t₂, rfl, ht₁, ht₂⟩), ?_⟩
    exact List.forall_mem_append.2 ⟨hP₁, hP₂⟩
  · intro t r' h hP
    rcases traces_bind_iff.1 h with ⟨b, t₁, t₂, rfl, hfirst, hsecond⟩ | ⟨e, hfirst, -⟩
    · obtain ⟨hP₁, hP₂⟩ := List.forall_mem_append.1 hP
      obtain rfl := Except.ok.inj (hc.2 t₁ _ hfirst hP₁)
      exact hf.2 t₂ r' hsecond hP₂
    · cases hc.2 t _ hfirst hP

theorem bind_error {e : ε} (hc : Yields P c (.error e)) :
    Yields P (c.bind f) (.error e : Except ε β) := by
  constructor
  · obtain ⟨⟨t, ht, hP⟩, -⟩ := hc
    exact ⟨t, traces_bind_iff.2 (.inr ⟨e, ht, rfl⟩), hP⟩
  · intro t r' h hP
    rcases traces_bind_iff.1 h with ⟨b, t₁, t₂, rfl, hfirst, -⟩ | ⟨e', hfirst, rfl⟩
    · cases hc.2 t₁ _ hfirst (List.forall_mem_append.1 hP).1
    · exact congrArg Except.error (Except.error.inj (hc.2 t _ hfirst hP))

/-- One call after another, with results that are computed alike. -/
theorem bind_except {r : Except ε α} {g : α → Except ε β} (hc : Yields P c r)
    (hf : ∀ a, r = .ok a → Yields P (f a) (g a)) : Yields P (c.bind f) (r.bind g) := by
  cases r with
  | error e => exact hc.bind_error
  | ok a => exact hc.bind (hf a rfl)

end Yields

/-- **Every run leaves a trace**, with exchanges as the world answers them as long as `J` holds of
it. -/
theorem RunsTo.exists_traces {serves : W → (q : I.Request) → I.Answer q → W → Prop} {w w' : W}
    {r : Except ε α} {J : W → Prop} {P : Exchange I → Prop} {A : I.Request → Prop}
    (hJ : ∀ {w q a w'}, A q → serves w q a w' → J w → P ⟨q, a⟩ ∧ J w') (hc : Asks A c)
    (hrun : RunsTo serves c w r w') (hw : J w) :
    ∃ t, Traces c t r ∧ (∀ x ∈ t, P x) ∧ J w' := by
  induction hrun with
  | done a w => exact ⟨[], .done a, by simp, hw⟩
  | failed e w => exact ⟨[], .failed e, by simp, hw⟩
  | waiting ha _ ih =>
    obtain ⟨hP, hw₁⟩ := hJ hc.1 ha hw
    obtain ⟨t, ht, hPt, hJ'⟩ := ih (hc.2 _) hw₁
    exact ⟨_ :: t, .waiting _ ht, List.forall_mem_cons.2 ⟨hP, hPt⟩, hJ'⟩

end Call

end EventLedger
