import EventLedger.Call
import Mathlib.Logic.Relation

/-!
# Calls among other clients

A call asks one thing after another, and between two of its requests the other clients do as they
like within the bounds of a relation on the worlds that all of them share.  What a call does is
described by the requests that it makes: each must be one that the discipline permits in the world
at hand, and the discipline is accountable for what permitted requests do to the world.

## Main definitions

* `Discipline` — the world's answers, its invariant, what the others may do, and the permitted
  requests.
* `Call.Keeps D post c w` — from world `w` on the call `c` makes permitted requests only, and it
  ends as `post` says.
* `Call.RunsTo serves c w r w'` — run alone from `w`, the call `c` may end with `r` in `w'`.
* `Call.Asks P c` — the call `c` makes only requests that satisfy `P`.
* `Call.Ends Q c` — the call `c` ends only with results that satisfy `Q`.

## Main results

* `Call.Keeps.bind` — one call after another.
* `Call.Keeps.of_runsTo`, `Call.Keeps.exists_runsTo` — a disciplined call that is run alone ends as
  its postcondition says, and it does end.
* `Call.Asks.exists_runsTo`, `Call.Asks.keeps_of_runsTo` — a call that makes requests of some kind
  only ends when it is run alone, and keeps what the answers to them keep.
* `Call.RunsTo.of_bind`, `Call.RunsTo.of_outcome` — the run of a call is the run of its parts.
* `Call.runs_runPast` — a call that is one of many may be answered up to where it is held.
-/

namespace EventLedger

/-- How a call may behave in worlds `W` that it shares with others. -/
structure Discipline (I : Interface) (W : Type) where
  /-- The answers to a request in a world, each with the world after it. -/
  serves : W → (q : I.Request) → I.Answer q → W → Prop
  /-- What holds of the world at every moment. -/
  inv : W → Prop
  /-- What the others may do between two requests. -/
  rely : W → W → Prop
  /-- The requests that are permitted in a world. -/
  asks : W → I.Request → Prop
  rely_trans : ∀ {w₁ w₂ w₃}, rely w₁ w₂ → rely w₂ w₃ → rely w₁ w₃
  /-- A permitted request keeps the invariant. -/
  keeps_inv : ∀ {w q a w'}, inv w → asks w q → serves w q a w' → inv w'

namespace Call

variable {I : Interface} {ε φ α β : Type} {W : Type} {D : Discipline I W}

/-- `Keeps D post c w` says that from world `w` on, whatever the others do meanwhile, the call `c`
makes permitted requests only and ends as `post` says. -/
def Keeps (D : Discipline I W) (post : W → Except ε α → Prop) : Call I ε α → W → Prop
  | done a, w => post w (.ok a)
  | failed e, w => post w (.error e)
  | waiting q next, w =>
    ∀ w₁, D.rely w w₁ → D.inv w₁ →
      D.asks w₁ q ∧ ∀ a w₂, D.serves w₁ q a w₂ → Keeps D post (next a) w₂

/-- `RunsTo serves c w r w'` says that the call `c`, run alone from `w`, may end with `r` in `w'`.
-/
inductive RunsTo (serves : W → (q : I.Request) → I.Answer q → W → Prop) :
    Call I ε α → W → Except ε α → W → Prop
  | done (a : α) (w : W) : RunsTo serves (done a) w (.ok a) w
  | failed (e : ε) (w : W) : RunsTo serves (failed e) w (.error e) w
  | waiting {q : I.Request} {next : I.Answer q → Call I ε α} {w w₁ w₂ : W} {a : I.Answer q}
      {r : Except ε α} : serves w q a w₁ → RunsTo serves (next a) w₁ r w₂ →
      RunsTo serves (waiting q next) w r w₂

namespace RunsTo

variable {serves : W → (q : I.Request) → I.Answer q → W → Prop} {w w' : W}

/-- **A run of one call after another** is a run of the first one, and of the second one unless the
first one fails. -/
theorem of_bind {c : Call I ε α} {f : α → Call I ε β} {r : Except ε β}
    (h : RunsTo serves (c.bind f) w r w') :
    (∃ a w₁, RunsTo serves c w (.ok a) w₁ ∧ RunsTo serves (f a) w₁ r w') ∨
      ∃ e, RunsTo serves c w (.error e) w' ∧ r = .error e := by
  induction c generalizing w with
  | done a => exact .inl ⟨a, w, .done a w, h⟩
  | failed e =>
    cases h
    exact .inr ⟨e, .failed e w', rfl⟩
  | waiting q next ih =>
    cases h with
    | waiting ha hrest =>
      rcases ih _ hrest with ⟨a, w₁, hfirst, hsecond⟩ | ⟨e, hfirst, hr⟩
      · exact .inl ⟨a, w₁, .waiting ha hfirst, hsecond⟩
      · exact .inr ⟨e, .waiting ha hfirst, hr⟩

/-- A run of a request is its answer. -/
theorem of_ask {q : I.Request} {r : Except ε (I.Answer q)} (h : RunsTo serves (ask q) w r w') :
    ∃ a, r = .ok a ∧ serves w q a w' := by
  cases h with
  | waiting ha hrest =>
    cases hrest
    exact ⟨_, rfl, ha⟩

/-- A run of a request and what follows its answer. -/
theorem of_ask_bind {q : I.Request} {f : I.Answer q → Call I ε β} {r : Except ε β}
    (h : RunsTo serves ((ask q).bind f) w r w') :
    ∃ a w₁, serves w q a w₁ ∧ RunsTo serves (f a) w₁ r w' := by
  cases h with
  | waiting ha hrest => exact ⟨_, _, ha, hrest⟩

/-- A run of one call after another that never fails. -/
theorem of_bind_ok {c : Call I ε α} {f : α → Call I ε β} {r : Except ε β}
    (hok : ∀ r w₁, RunsTo serves c w r w₁ → ∃ a, r = .ok a)
    (h : RunsTo serves (c.bind f) w r w') :
    ∃ a w₁, RunsTo serves c w (.ok a) w₁ ∧ RunsTo serves (f a) w₁ r w' := by
  rcases h.of_bind with hboth | ⟨e, hfirst, -⟩
  · exact hboth
  · obtain ⟨a, ha⟩ := hok _ _ hfirst
    cases ha

/-- A run of a result that was computed leaves the world as it is. -/
theorem of_ofExcept {r r' : Except ε α} (h : RunsTo serves (ofExcept r) w r' w') :
    r' = r ∧ w' = w := by
  cases r with
  | ok a =>
    cases h
    exact ⟨rfl, rfl⟩
  | error e =>
    cases h
    exact ⟨rfl, rfl⟩

/-- A result that was computed is the end of a run. -/
theorem ofExcept (r : Except ε α) (w : W) : RunsTo serves (Call.ofExcept r) w r w := by
  cases r with
  | ok a => exact .done a w
  | error e => exact .failed e w

/-- A run of a call whose failure is a result is a run of the call. -/
theorem of_outcome {c : Call I ε α} {r : Except φ (Except ε α)}
    (h : RunsTo serves c.outcome w r w') : ∃ r', r = .ok r' ∧ RunsTo serves c w r' w' := by
  induction c generalizing w with
  | done a =>
    cases h
    exact ⟨.ok a, rfl, .done a w'⟩
  | failed e =>
    cases h
    exact ⟨.error e, rfl, .failed e w'⟩
  | waiting q next ih =>
    cases h with
    | waiting ha hrest =>
      obtain ⟨r', hr, hrun⟩ := ih _ hrest
      exact ⟨r', hr, .waiting ha hrun⟩

/-- A run of a call that goes on with its result or its failure. -/
theorem of_outcome_bind {c : Call I ε α} {f : Except ε α → Call I φ β} {r : Except φ β}
    (h : RunsTo serves (c.outcome.bind f) w r w') :
    ∃ r₁ w₁, RunsTo serves c w r₁ w₁ ∧ RunsTo serves (f r₁) w₁ r w' := by
  rcases h.of_bind with ⟨r₁, w₁, hfirst, hrest⟩ | ⟨e, hfirst, -⟩
  · obtain ⟨_, hr, hfirst⟩ := hfirst.of_outcome
    obtain rfl := Except.ok.inj hr
    exact ⟨r₁, w₁, hfirst, hrest⟩
  · obtain ⟨_, hr, -⟩ := hfirst.of_outcome
    cases hr

/-- One run after another. -/
theorem bind {c : Call I ε α} {f : α → Call I ε β} {a : α} {w₁ : W} {r : Except ε β}
    (h : RunsTo serves c w (.ok a) w₁) (h' : RunsTo serves (f a) w₁ r w') :
    RunsTo serves (c.bind f) w r w' := by
  induction c generalizing w with
  | done a =>
    cases h
    exact h'
  | failed e => cases h
  | waiting q next ih =>
    cases h with
    | waiting ha hrest => exact .waiting ha (ih _ hrest)

/-- A run that fails, after which nothing is run. -/
theorem bind_error {c : Call I ε α} {f : α → Call I ε β} {e : ε}
    (h : RunsTo serves c w (.error e) w') : RunsTo serves (c.bind f) w (.error e) w' := by
  induction c generalizing w with
  | done a => cases h
  | failed e =>
    cases h
    exact .failed e w'
  | waiting q next ih =>
    cases h with
    | waiting ha hrest => exact .waiting ha (ih _ hrest)

/-- A run of a call, whose failure becomes a result. -/
theorem outcome {c : Call I ε α} {r : Except ε α} (h : RunsTo serves c w r w') :
    RunsTo serves (c.outcome : Call I φ (Except ε α)) w (.ok r) w' := by
  induction h with
  | done a w => exact .done _ w
  | failed e w => exact .done _ w
  | waiting ha _ ih => exact .waiting ha ih

/-- A run in which fewer answers are possible. -/
theorem imp {serves' : W → (q : I.Request) → I.Answer q → W → Prop} {c : Call I ε α}
    {r : Except ε α} (h : ∀ {w q a w'}, serves w q a w' → serves' w q a w')
    (hrun : RunsTo serves c w r w') : RunsTo serves' c w r w' := by
  induction hrun with
  | done a w => exact .done a w
  | failed e w => exact .failed e w
  | waiting ha _ ih => exact .waiting (h ha) ih

/-- What every answer keeps, a run keeps. -/
theorem keeps {c : Call I ε α} {r : Except ε α} {Q : W → Prop}
    (hQ : ∀ {w q a w'}, serves w q a w' → Q w → Q w') (hrun : RunsTo serves c w r w') (hw : Q w) :
    Q w' := by
  induction hrun with
  | done a w => exact hw
  | failed e w => exact hw
  | waiting ha _ ih => exact ih (hQ ha hw)

/-- A call that a state answers is a run. -/
theorem of_runState {answer : (q : I.Request) → W → I.Answer q × W}
    (h : ∀ w q, serves w q (answer q w).1 (answer q w).2) (c : Call I ε α) (w : W) :
    RunsTo serves c w (c.runState answer w).1 (c.runState answer w).2 := by
  induction c generalizing w with
  | done a => exact .done a w
  | failed e => exact .failed e w
  | waiting q next ih => exact .waiting (h w q) (ih _ _)

end RunsTo

namespace Keeps

variable {post post' : W → Except ε α → Prop} {c : Call I ε α} {w w' : W}

/-- A weaker postcondition. -/
theorem imp (h : ∀ w r, D.inv w → post w r → post' w r) (hw : D.inv w) (hc : Keeps D post c w) :
    Keeps D post' c w := by
  induction c generalizing w with
  | done a => exact h w _ hw hc
  | failed e => exact h w _ hw hc
  | waiting q next ih =>
    intro w₁ hr hi
    obtain ⟨hq, hn⟩ := hc w₁ hr hi
    exact ⟨hq, fun a w₂ ha => ih a (D.keeps_inv hi hq ha) (hn a w₂ ha)⟩

/-- What the others do before the next request changes nothing. -/
theorem of_rely (hpost : ∀ {r}, post w r → post w' r) (hr : D.rely w w') (hc : Keeps D post c w) :
    Keeps D post c w' := by
  cases c with
  | done a => exact hpost hc
  | failed e => exact hpost hc
  | waiting q next => exact fun w₁ hr₁ hi => hc w₁ (D.rely_trans hr hr₁) hi

/-- **One call after another.** -/
theorem bind {post : W → Except ε β → Prop} {mid : W → Except ε α → Prop} {f : α → Call I ε β}
    (hw : D.inv w) (hc : Keeps D mid c w)
    (hok : ∀ w a, D.inv w → mid w (.ok a) → Keeps D post (f a) w)
    (herr : ∀ w e, D.inv w → mid w (.error e) → post w (.error e)) :
    Keeps D post (c.bind f) w := by
  induction c generalizing w with
  | done a => exact hok w a hw hc
  | failed e => exact herr w e hw hc
  | waiting q next ih =>
    intro w₁ hr hi
    obtain ⟨hq, hn⟩ := hc w₁ hr hi
    exact ⟨hq, fun a w₂ ha => ih a (D.keeps_inv hi hq ha) (hn a w₂ ha)⟩

/-- The call whose failure is a result. -/
theorem outcome {post : W → Except φ (Except ε α) → Prop}
    (hc : Keeps D (fun w r => post w (.ok r)) c w) : Keeps D post c.outcome w := by
  induction c generalizing w with
  | done a => exact hc
  | failed e => exact hc
  | waiting q next ih =>
    intro w₁ hr hi
    obtain ⟨hq, hn⟩ := hc w₁ hr hi
    exact ⟨hq, fun a w₂ ha => ih a (hn a w₂ ha)⟩

/-- A call that goes on with the result or the failure of another one. -/
theorem outcome_bind {post : W → Except φ β → Prop} {mid : W → Except ε α → Prop}
    {f : Except ε α → Call I φ β} (hw : D.inv w) (hc : Keeps D mid c w)
    (hf : ∀ w r, D.inv w → mid w r → Keeps D post (f r) w) :
    Keeps D post (c.outcome.bind f) w := by
  induction c generalizing w with
  | done a => exact hf w _ hw hc
  | failed e => exact hf w _ hw hc
  | waiting q next ih =>
    intro w₁ hr hi
    obtain ⟨hq, hn⟩ := hc w₁ hr hi
    exact ⟨hq, fun a w₂ ha => ih a (D.keeps_inv hi hq ha) (hn a w₂ ha)⟩

/-- **A disciplined call that is run alone ends as its postcondition says.** -/
theorem of_runsTo {r : Except ε α} (hrefl : ∀ w, D.inv w → D.rely w w)
    (hrun : RunsTo D.serves c w r w') (hw : D.inv w) (hc : Keeps D post c w) :
    D.inv w' ∧ post w' r := by
  induction hrun with
  | done a w => exact ⟨hw, hc⟩
  | failed e w => exact ⟨hw, hc⟩
  | waiting ha _ ih =>
    obtain ⟨hq, hn⟩ := hc _ (hrefl _ hw) hw
    exact ih (D.keeps_inv hw hq ha) (hn _ _ ha)

/-- **A disciplined call that is run alone ends**, if as long as `P` holds every permitted request
has an answer that keeps it. -/
theorem exists_runsTo {P : W → Prop} (hrefl : ∀ w, D.inv w → D.rely w w)
    (hlive : ∀ w q, D.inv w → P w → D.asks w q → ∃ a w', D.serves w q a w' ∧ P w') (hw : D.inv w)
    (hP : P w) (hc : Keeps D post c w) : ∃ r w', RunsTo D.serves c w r w' ∧ P w' := by
  induction c generalizing w with
  | done a => exact ⟨_, _, .done a w, hP⟩
  | failed e => exact ⟨_, _, .failed e w, hP⟩
  | waiting q next ih =>
    obtain ⟨hq, hn⟩ := hc w (hrefl w hw) hw
    obtain ⟨a, w₁, ha, hP₁⟩ := hlive w q hw hP hq
    obtain ⟨r, w₂, hrun, hP₂⟩ := ih a (D.keeps_inv hw hq ha) hP₁ (hn a w₁ ha)
    exact ⟨r, w₂, .waiting ha hrun, hP₂⟩

end Keeps

/-! ### Runs among others -/

/-- A call that is one of many is answered up to where it is held, if each of its requests may be
answered in one step. -/
theorem runs_runPast {S E : Type*} {step : S → S → Prop} (state : W → List E → S)
    (place : Call I ε α → E) {i : Nat} {answer : (q : I.Request) → W → I.Answer q × W}
    (hstep : ∀ {w : W} {calls : List E} {q next}, calls[i]? = some (place (waiting q next)) →
      step (state w calls)
        (state (answer q w).2 (calls.set i (place (next (answer q w).1)))))
    (holds : (q : I.Request) → I.Answer q → Bool) {c : Call I ε α} {w : W} {calls : List E}
    (hi : calls[i]? = some (place c)) :
    Relation.ReflTransGen step (state w calls)
      (state (c.runPast answer holds w).2
        (calls.set i (place (c.runPast answer holds w).1))) := by
  obtain ⟨hlt, hget⟩ := List.getElem?_eq_some_iff.1 hi
  have hself : calls.set i (place c) = calls := by rw [← hget, List.set_getElem_self]
  induction c generalizing w calls with
  | done a => rw [runPast.eq_def, hself]
  | failed e => rw [runPast.eq_def, hself]
  | waiting q next ih =>
    simp only [runPast]
    split
    · exact .single (hstep hi)
    · have hnext := List.getElem?_set_self (a := place (next (answer q w).1)) hlt
      have hrest := ih _ (w := (answer q w).2) hnext (List.getElem?_eq_some_iff.1 hnext).1
        (List.getElem?_eq_some_iff.1 hnext).2 (List.set_set ..)
      rw [List.set_set] at hrest
      exact .head (hstep hi) hrest

/-! ### Requests of some kind only -/

/-- The call makes only requests that satisfy `P`, whatever the answers. -/
def Asks (P : I.Request → Prop) : Call I ε α → Prop
  | done _ => True
  | failed _ => True
  | waiting q next => P q ∧ ∀ a, Asks P (next a)

namespace Asks

variable {P : I.Request → Prop} {c : Call I ε α} {w w' : W} {r : Except ε α}
  {serves : W → (q : I.Request) → I.Answer q → W → Prop}

theorem bind {f : α → Call I ε β} (hc : Asks P c) (hf : ∀ a, Asks P (f a)) : Asks P (c.bind f) := by
  induction c with
  | done a => exact hf a
  | failed e => trivial
  | waiting q next ih => exact ⟨hc.1, fun a => ih a (hc.2 a)⟩

theorem ofExcept (r : Except ε α) : Asks P (Call.ofExcept r : Call I ε α) := by
  cases r <;> trivial

/-- What the answers to such requests keep, a call that is run alone keeps. -/
theorem keeps_of_runsTo {Q : W → Prop}
    (hQ : ∀ {w q a w'}, P q → serves w q a w' → Q w → Q w') (hc : Asks P c)
    (hrun : RunsTo serves c w r w') (hw : Q w) : Q w' := by
  induction hrun with
  | done a w => exact hw
  | failed e w => exact hw
  | waiting ha _ ih => exact ih (hc.2 _) (hQ hc.1 ha hw)

/-- A call ends that is run alone, if such requests have answers. -/
theorem exists_runsTo (hlive : ∀ w q, P q → ∃ a w', serves w q a w') (hc : Asks P c) (w : W) :
    ∃ r w', RunsTo serves c w r w' := by
  induction c generalizing w with
  | done a => exact ⟨_, _, .done a w⟩
  | failed e => exact ⟨_, _, .failed e w⟩
  | waiting q next ih =>
    obtain ⟨a, w₁, ha⟩ := hlive w q hc.1
    obtain ⟨r, w₂, hrun⟩ := ih a (hc.2 a) w₁
    exact ⟨r, w₂, .waiting ha hrun⟩

theorem of_forall (h : ∀ q, P q) (c : Call I ε α) : Asks P c := by
  induction c with
  | done a => trivial
  | failed e => trivial
  | waiting q next ih => exact ⟨h q, ih⟩

/-- A call makes permitted requests only, if such requests are permitted as long as `J` holds, and
`J` is kept by the others and by the answers to such requests. -/
theorem keeps_of_stable {J : W → Prop} (hP : ∀ {w q}, J w → P q → D.asks w q)
    (hrely : ∀ {w w'}, D.rely w w' → J w → J w')
    (hserves : ∀ {w q a w'}, P q → D.serves w q a w' → J w → J w') (hc : Asks P c) (hw : J w) :
    Keeps D (fun w _ => J w) c w := by
  induction c generalizing w with
  | done a => exact hw
  | failed e => exact hw
  | waiting q next ih =>
    intro w₁ hr _
    have hw₁ := hrely hr hw
    exact ⟨hP hw₁ hc.1, fun a w₂ ha => ih a (hc.2 a) (hserves hc.1 ha hw₁)⟩

/-- A call keeps what the others and the answers to its requests keep, besides what it does. -/
theorem keeps_and {J : W → Prop} {post : W → Except ε α → Prop}
    (hrely : ∀ {w w'}, D.rely w w' → J w → J w')
    (hserves : ∀ {w q a w'}, P q → D.asks w q → D.serves w q a w' → J w → J w') (hc : Asks P c)
    (hkeeps : Keeps D post c w) (hw : J w) : Keeps D (fun w r => post w r ∧ J w) c w := by
  induction c generalizing w with
  | done a => exact ⟨hkeeps, hw⟩
  | failed e => exact ⟨hkeeps, hw⟩
  | waiting q next ih =>
    intro w₁ hr hi
    obtain ⟨hq, hnext⟩ := hkeeps w₁ hr hi
    have hw₁ := hrely hr hw
    exact ⟨hq, fun a w₂ ha => ih a (hc.2 a) (hnext a w₂ ha) (hserves hc.1 hq ha hw₁)⟩

/-- A call makes permitted requests only, if such requests are always permitted. -/
theorem keeps (hP : ∀ {w q}, P q → D.asks w q) (hc : Asks P c) (w : W) :
    Keeps D (fun _ _ => True) c w :=
  hc.keeps_of_stable (fun _ => hP) (fun _ _ => trivial) (fun _ _ _ => trivial) trivial

/-- A wider kind of requests. -/
theorem imp {P' : I.Request → Prop} (h : ∀ q, P q → P' q) (hc : Asks P c) : Asks P' c := by
  induction c with
  | done a => trivial
  | failed e => trivial
  | waiting q next ih => exact ⟨h q hc.1, fun a => ih a (hc.2 a)⟩

/-- The first part of a call makes no other requests than the whole. -/
theorem of_bind {f : α → Call I ε β} (hc : Asks P (c.bind f)) : Asks P c := by
  induction c with
  | done a => trivial
  | failed e => trivial
  | waiting q next ih => exact ⟨hc.1, fun a => ih a (hc.2 a)⟩

end Asks

/-! ### Results of some kind only -/

/-- The call ends only with results that satisfy `Q`, whatever the answers. -/
def Ends (Q : Except ε α → Prop) : Call I ε α → Prop
  | done a => Q (.ok a)
  | failed e => Q (.error e)
  | waiting _ next => ∀ a, Ends Q (next a)

namespace Ends

variable {Q : Except ε α → Prop} {Q' : Except ε β → Prop} {c : Call I ε α} {r : Except ε α}

theorem bind {f : α → Call I ε β} (hc : Ends Q c) (hok : ∀ a, Q (.ok a) → Ends Q' (f a))
    (herr : ∀ e, Q (.error e) → Q' (.error e)) : Ends Q' (c.bind f) := by
  induction c with
  | done a => exact hok a hc
  | failed e => exact herr e hc
  | waiting q next ih => exact fun a => ih a (hc a)

theorem of_forall (h : ∀ r, Q r) : Ends Q c := by
  induction c with
  | done a => exact h _
  | failed e => exact h _
  | waiting q next ih => exact ih

/-- What follows a call asks such requests if it does after every result that the call can have. -/
theorem bind_asks {P : I.Request → Prop} {f : α → Call I ε β} (hc : Ends Q c) (hasks : Asks P c)
    (hf : ∀ a, Q (.ok a) → Asks P (f a)) : Asks P (c.bind f) := by
  induction c with
  | done a => exact hf a hc
  | failed e => trivial
  | waiting q next ih => exact ⟨hasks.1, fun a => ih a (hc a) (hasks.2 a)⟩

/-- How the first part ends does not matter if every failure will do. -/
theorem bind_of_forall {f : α → Call I ε β} (hok : ∀ a, Ends Q' (f a))
    (herr : ∀ e, Q' (.error e)) : Ends Q' (c.bind f) :=
  bind (Q := fun _ => True) (of_forall fun _ => trivial) (fun a _ => hok a) fun e _ => herr e

/-- A call ends with such a result, besides what it keeps. -/
theorem keeps_and {post : W → Except ε α → Prop} {w : W} (hc : Ends Q c)
    (hkeeps : Keeps D post c w) : Keeps D (fun w r => post w r ∧ Q r) c w := by
  induction c generalizing w with
  | done a => exact ⟨hkeeps, hc⟩
  | failed e => exact ⟨hkeeps, hc⟩
  | waiting q next ih =>
    intro w₁ hr hi
    obtain ⟨hq, hnext⟩ := hkeeps w₁ hr hi
    exact ⟨hq, fun a w₂ ha => ih a (hc a) (hnext a w₂ ha)⟩

/-- A run of the call ends with such a result. -/
theorem of_runsTo {serves : W → (q : I.Request) → I.Answer q → W → Prop} {w w' : W}
    (hc : Ends Q c) (hrun : RunsTo serves c w r w') : Q r := by
  induction hrun with
  | done a w => exact hc
  | failed e w => exact hc
  | waiting _ _ ih => exact ih (hc _)

end Ends

end Call

end EventLedger
