import EventLedger.Proofs.Upgrades.Acyclic
import Mathlib.Data.List.Perm.Subperm

/-!
# How many passes a chain needs

A chain whose transforms produce what they are declared to produce moves every event along the
declared graph.  The graph has no cycle, so a walk along it meets each input once at most: an event
can be replaced, and what takes its place be replaced again, in no more rounds than there are
upgraders.

A pass takes every event at least one round further.  An upgrader meets all events of its type that
are there when its turn comes, those that earlier upgraders of the pass have produced among them; so
what is left behind a pass either stood there with one round less to go, or has come out of a
transform, which takes one round off.  How many events there are does not enter.  One more pass
finds nothing to replace and ends the upgrade.

If no declared output is the input of an upgrader registered earlier, then what an upgrader produces
meets only upgraders whose turn is still to come, and the first pass already goes all the way.

## Main definitions

* `UpgraderChain.Honest` — transforms produce events of the declared types only.
* `UpgraderChain.SettlesIn` — how many rounds of replacement a type may still need.
* `UpgraderChain.Forward` — declared outputs are replaced by later upgraders only.
* `UpgraderChain.RoundsLeft`, `UpgraderChain.TurnsPassed` — what holds of every event in the middle
  of a pass.
* `UpgraderChain.Ends` — upgrading has a result, the expansion of the event.

## Main results

* `UpgraderChain.Acyclic.settlesIn_length` — no type needs more rounds than there are upgraders.
* `UpgraderChain.forall_mem_pass` — what one pass does to every event.
* `UpgraderChain.settlesIn_of_mem_pass`, `UpgraderChain.isCurrent_of_mem_pass` — a pass takes a
  round off, and all of them in a chain that goes forward.
* `UpgraderChain.ends_of_honest` — **upgrading with an honest chain does not meet the bound on
  passes**, if that leaves one pass more than there are upgraders, or two in a chain that goes
  forward.
-/

namespace EventLedger.UpgraderChain

open Relation (TransGen)

variable {ε : Type} {typeOf : ε → EventType} {us : List (Upgrader ε)} {u : Upgrader ε} {e : ε}
  {es : List ε} {c : UpgraderChain ε} {t t' : EventType} {n m : Nat}

/-- The transforms produce events of the declared types only. -/
def Honest (typeOf : ε → EventType) (us : List (Upgrader ε)) : Prop :=
  ∀ u ∈ us, ∀ e, typeOf e = u.input → ∀ y ∈ u.transform e, typeOf y ∈ u.outputs

/-- No declared output of an upgrader is the input of one that was registered before it. -/
def Forward (us : List (Upgrader ε)) : Prop :=
  us.Pairwise fun earlier later => earlier.input ∉ later.outputs

/-! ### Rounds of replacement -/

/-- No type is left with an upgrader when events of the type have been replaced by events of its
declared outputs, and those in turn, for `n` rounds. -/
def SettlesIn (us : List (Upgrader ε)) : Nat → EventType → Prop
  | 0, t => ∀ u ∈ us, u.input ≠ t
  | n + 1, t => ∀ t', Declares us t t' → SettlesIn us n t'

theorem settlesIn_zero_iff : SettlesIn us 0 (typeOf e) ↔ IsCurrent typeOf us e := Iff.rfl

theorem SettlesIn.succ (h : SettlesIn us n t) : SettlesIn us (n + 1) t := by
  induction n generalizing t with
  | zero =>
    rintro t' ⟨u, hu, hinput, -⟩
    exact absurd hinput (h u hu)
  | succ n ih =>
    intro t' hdeclares
    exact ih (h t' hdeclares)

theorem SettlesIn.mono (h : SettlesIn us n t) (hle : n ≤ m) : SettlesIn us m t := by
  induction hle with
  | refl => exact h
  | step _ ih => exact ih.succ

/-- A type that needs more than `n` rounds is the start of a walk over `n` more types, all of them
with an upgrader. -/
theorem exists_walk_of_not_settlesIn (h : ¬SettlesIn us n t) : ∃ walk : List EventType,
    walk.length = n ∧ (t :: walk).IsChain (Declares us) ∧ t :: walk ⊆ us.map (·.input) := by
  induction n generalizing t with
  | zero =>
    obtain ⟨u, hu, rfl⟩ : ∃ u ∈ us, u.input = t := by simpa [SettlesIn] using h
    refine ⟨[], rfl, .singleton _, ?_⟩
    exact List.cons_subset.2 ⟨List.mem_map_of_mem hu, List.nil_subset _⟩
  | succ n ih =>
    obtain ⟨t', hdeclares, hnot⟩ : ∃ t', Declares us t t' ∧ ¬SettlesIn us n t' := by
      simpa [SettlesIn] using h
    obtain ⟨walk, hlength, hchain, hinputs⟩ := ih hnot
    obtain ⟨u, hu, rfl, -⟩ := id hdeclares
    refine ⟨t' :: walk, by simp [hlength], .cons_cons hdeclares hchain, ?_⟩
    exact List.cons_subset.2 ⟨List.mem_map_of_mem hu, hinputs⟩

/-- A walk in an acyclic graph meets no type twice. -/
theorem Acyclic.nodup_of_isChain {walk : List EventType} (h : Acyclic us)
    (hchain : walk.IsChain (Declares us)) : walk.Nodup := by
  have hpairs : walk.Pairwise (TransGen (Declares us)) :=
    List.isChain_iff_pairwise.1 (hchain.imp fun _ _ => TransGen.single)
  refine hpairs.imp ?_
  rintro a _ hcycle rfl
  exact h a hcycle

/-- **No type needs more rounds than there are upgraders.** -/
theorem Acyclic.settlesIn_length (h : Acyclic us) (t : EventType) : SettlesIn us us.length t := by
  by_contra hnot
  obtain ⟨walk, hlength, hchain, hinputs⟩ := exists_walk_of_not_settlesIn hnot
  have hle := ((h.nodup_of_isChain hchain).subperm hinputs).length_le
  rw [List.length_cons, hlength, List.length_map] at hle
  exact Nat.not_succ_le_self _ hle

/-! ### One pass -/

/-- Behind the turn of an upgrader stand the events of other types, and what it has produced. -/
theorem forall_mem_applyOne {P : ε → Prop} {es' : List ε}
    (hother : ∀ e ∈ es, typeOf e ≠ u.input → P e)
    (hproduced : ∀ e ∈ es, typeOf e = u.input → ∀ y ∈ u.transform e, P y)
    (happly : (applyOne typeOf u es).getD es = es') : ∀ y ∈ es', P y := by
  subst happly
  unfold applyOne
  split
  next =>
    intro y hy
    obtain ⟨e, he, hy⟩ := List.mem_flatMap.1 hy
    split at hy
    next hinput => exact hproduced e he (beq_iff_eq.1 hinput) y hy
    next hinput =>
      obtain rfl := List.mem_singleton.1 hy
      exact hother y he fun heq => hinput (beq_iff_eq.2 heq)
  next hnone =>
    intro y hy
    exact hother y hy fun heq => hnone (List.any_eq_true.2 ⟨y, hy, beq_iff_eq.2 heq⟩)

/-- **A pass, event by event.**  `P vs` is what holds of every event while the turns of `vs` are
still to come. -/
theorem forall_mem_pass {P : List (Upgrader ε) → ε → Prop}
    (hother : ∀ {u vs e}, P (u :: vs) e → typeOf e ≠ u.input → P vs e)
    (hproduced : ∀ {u vs e}, P (u :: vs) e → typeOf e = u.input → ∀ y ∈ u.transform e, P vs y) :
    ∀ {vs : List (Upgrader ε)} {es : List ε}, (∀ e ∈ es, P vs e) →
      ∀ y ∈ (pass typeOf vs es).2, P [] y
  | [], _, h => h
  | u :: vs, es, h => by
    have hturn : ∀ y ∈ (applyOne typeOf u es).getD es, P vs y :=
      forall_mem_applyOne (fun e he => hother (h e he)) (fun e he => hproduced (h e he)) rfl
    rw [pass]
    cases happly : applyOne typeOf u es with
    | none =>
      rw [happly] at hturn
      exact forall_mem_pass hother hproduced hturn
    | some es' =>
      rw [happly] at hturn
      exact forall_mem_pass hother hproduced hturn

/-- While the turns of `vs` are still to come, an event has `n + 1` rounds to go at most, and only if
it is of the type of one of them does it not have `n`. -/
structure RoundsLeft (typeOf : ε → EventType) (us : List (Upgrader ε)) (n : Nat)
    (vs : List (Upgrader ε)) (e : ε) : Prop where
  turns : vs ⊆ us
  settles : SettlesIn us (n + 1) (typeOf e)
  less : SettlesIn us n (typeOf e) ∨ ∃ v ∈ vs, v.input = typeOf e

/-- While the turns of `vs` are still to come, an event is not of the type of an upgrader that has
had its turn. -/
def TurnsPassed (typeOf : ε → EventType) (us vs : List (Upgrader ε)) (e : ε) : Prop :=
  ∃ done, us = done ++ vs ∧ ∀ v ∈ done, v.input ≠ typeOf e

theorem RoundsLeft.next {vs : List (Upgrader ε)} (h : RoundsLeft typeOf us n (u :: vs) e)
    (hne : typeOf e ≠ u.input) : RoundsLeft typeOf us n vs e where
  turns := (List.cons_subset.1 h.turns).2
  settles := h.settles
  less := by
    refine h.less.imp_right ?_
    rintro ⟨v, hv, hinput⟩
    rcases List.mem_cons.1 hv with rfl | hv
    · exact absurd hinput.symm hne
    · exact ⟨v, hv, hinput⟩

theorem RoundsLeft.produced {vs : List (Upgrader ε)} (hhonest : Honest typeOf us)
    (h : RoundsLeft typeOf us n (u :: vs) e) (hinput : typeOf e = u.input) :
    ∀ y ∈ u.transform e, RoundsLeft typeOf us n vs y := by
  intro y hy
  obtain ⟨hu, hvs⟩ := List.cons_subset.1 h.turns
  have hless : SettlesIn us n (typeOf y) :=
    h.settles (typeOf y) ⟨u, hu, hinput.symm, hhonest u hu e hinput y hy⟩
  exact ⟨hvs, hless.succ, .inl hless⟩

/-- **A pass takes a round off.** -/
theorem settlesIn_of_mem_pass (hhonest : Honest typeOf us)
    (h : ∀ e ∈ es, SettlesIn us (n + 1) (typeOf e)) :
    ∀ y ∈ (pass typeOf us es).2, SettlesIn us n (typeOf y) := by
  have hstart : ∀ e ∈ es, RoundsLeft typeOf us n us e := by
    intro e he
    refine ⟨List.Subset.refl us, h e he, ?_⟩
    by_cases hcurrent : IsCurrent typeOf us e
    · exact .inl ((settlesIn_zero_iff.2 hcurrent).mono (Nat.zero_le n))
    · exact .inr (by simpa [IsCurrent] using hcurrent)
  intro y hy
  rcases (forall_mem_pass RoundsLeft.next (RoundsLeft.produced hhonest) hstart y hy).less with
    hless | ⟨v, hv, -⟩
  · exact hless
  · cases hv

theorem TurnsPassed.next {vs done : List (Upgrader ε)} (hus : us = done ++ u :: vs)
    (hdone : ∀ v ∈ done, v.input ≠ typeOf e) (hne : u.input ≠ typeOf e) :
    TurnsPassed typeOf us vs e := by
  refine ⟨done ++ [u], by rw [hus, List.append_assoc, List.singleton_append], ?_⟩
  simpa [or_imp, forall_and] using ⟨hdone, hne⟩

/-- What an upgrader of a chain that goes forward produces is not of the type of one that has had
its turn, itself included. -/
theorem TurnsPassed.produced {vs : List (Upgrader ε)} (hhonest : Honest typeOf us)
    (hacyclic : Acyclic us) (hforward : Forward us) (h : TurnsPassed typeOf us (u :: vs) e)
    (hinput : typeOf e = u.input) : ∀ y ∈ u.transform e, TurnsPassed typeOf us vs y := by
  intro y hy
  obtain ⟨done, hus, -⟩ := h
  have hu : u ∈ us := hus ▸ List.mem_append_right done List.mem_cons_self
  have hdeclared : typeOf y ∈ u.outputs := hhonest u hu e hinput y hy
  refine TurnsPassed.next hus ?_ ?_
  · intro v hv heq
    rw [Forward, hus] at hforward
    exact (List.pairwise_append.1 hforward).2.2 v hv u List.mem_cons_self (heq ▸ hdeclared)
  · intro heq
    exact hacyclic u.input (.single ⟨u, hu, rfl, heq ▸ hdeclared⟩)

/-- **A pass of a chain that goes forward goes all the way.** -/
theorem isCurrent_of_mem_pass (hhonest : Honest typeOf us) (hacyclic : Acyclic us)
    (hforward : Forward us) : ∀ y ∈ (pass typeOf us es).2, IsCurrent typeOf us y := by
  have hother : ∀ {u vs e}, TurnsPassed typeOf us (u :: vs) e → typeOf e ≠ u.input →
      TurnsPassed typeOf us vs e := by
    rintro u vs e ⟨done, hus, hdone⟩ hne
    exact TurnsPassed.next hus hdone hne.symm
  have hstart : ∀ e ∈ es, TurnsPassed typeOf us us e :=
    fun e _ => ⟨[], rfl, fun v hv => by cases hv⟩
  intro y hy
  obtain ⟨done, hus, hdone⟩ :=
    forall_mem_pass hother (TurnsPassed.produced hhonest hacyclic hforward) hstart y hy
  rw [List.append_nil] at hus
  exact hus ▸ hdone

/-! ### All passes -/

/-- Passes end if they are more than the rounds to go. -/
theorem exists_passes_of_settlesIn (hhonest : Honest typeOf us) :
    ∀ {n m : Nat} {es : List ε}, (∀ e ∈ es, SettlesIn us m (typeOf e)) → m < n →
      ∃ r, passes typeOf us n es = some r
  | n + 1, m, es, h, hlt => by
    rw [passes]
    cases hpass : pass typeOf us es with
    | mk applied es' =>
      cases applied with
      | false => exact ⟨es', rfl⟩
      | true =>
        cases m with
        | zero =>
          -- a pass that applies an upgrader has met an event that is not current
          have hidle : (pass typeOf us es).1 = false := pass_fst_eq_false_iff.2 h
          rw [hpass] at hidle
          cases hidle
        | succ m =>
          have hless := settlesIn_of_mem_pass hhonest h
          rw [hpass] at hless
          exact exists_passes_of_settlesIn hhonest hless (Nat.lt_of_succ_lt_succ hlt)

/-- Two passes are enough if the first goes all the way. -/
theorem exists_passes_of_isCurrent (hhonest : Honest typeOf us)
    (h : ∀ y ∈ (pass typeOf us es).2, IsCurrent typeOf us y) :
    ∃ r, passes typeOf us (n + 2) es = some r := by
  rw [passes]
  cases hpass : pass typeOf us es with
  | mk applied es' =>
    rw [hpass] at h
    cases applied with
    | false => exact ⟨es', rfl⟩
    | true => exact exists_passes_of_settlesIn (m := 0) hhonest h (Nat.succ_pos n)

/-! ### Upgrading -/

/-- Upgrading has a result, the expansion of the event. -/
def Ends (typeOf : ε → EventType) (c : UpgraderChain ε) (e : ε) : Prop :=
  ∃ r, c.upgrade typeOf e = .ok r ∧ Expands typeOf c.upgraders e r

theorem Built.ends_of_passes {r : List ε} (hc : Built c)
    (h : passes typeOf c.upgraders c.maxPasses [e] = some r) : Ends typeOf c e := by
  cases hupgrade : c.upgrade typeOf e with
  | ok r =>
    have hpasses := upgrade_eq_ok hupgrade hc.maxPasses_pos
    exact ⟨r, hupgrade, (expandsAll_of_passes hc.nodup hpasses).2⟩
  | error x =>
    have hnone := ((upgrade_eq_error_iff hc.maxPasses_pos).1 hupgrade).2
    rw [h] at hnone
    cases hnone

/-- **Upgrading with an honest chain does not meet the bound on passes**, if that leaves one pass
more than there are upgraders, in whatever order they were registered, or two in a chain that goes
forward. -/
theorem ends_of_honest (hc : Built c) (hhonest : Honest typeOf c.upgraders) (e : ε) :
    (c.upgraders.length + 1 ≤ c.maxPasses → Ends typeOf c e) ∧
      (Forward c.upgraders → 2 ≤ c.maxPasses → Ends typeOf c e) := by
  constructor
  · intro hbound
    have hsettles : ∀ x ∈ [e], SettlesIn c.upgraders c.upgraders.length (typeOf x) :=
      fun x _ => hc.acyclic.settlesIn_length (typeOf x)
    obtain ⟨r, hr⟩ := exists_passes_of_settlesIn hhonest hsettles hbound
    exact hc.ends_of_passes hr
  · intro hforward hbound
    have hfirst : ∀ y ∈ (pass typeOf c.upgraders [e]).2, IsCurrent typeOf c.upgraders y :=
      isCurrent_of_mem_pass hhonest hc.acyclic hforward
    obtain ⟨n, hn⟩ := Nat.exists_eq_add_of_le' hbound
    obtain ⟨r, hr⟩ := exists_passes_of_isCurrent (n := n) hhonest hfirst
    exact hc.ends_of_passes (hn ▸ hr)

/-! ### Chains that go backward and forward -/

/-- An upgrader of the type with number `n` that produces the given numbers and declares them. -/
def openly (n : Nat) (produced : List Nat) : Upgrader Nat :=
  ⟨countType n, produced.map countType, fun _ => produced⟩

theorem honest_openly {us : List (Upgrader Nat)}
    (h : ∀ u ∈ us, ∃ n produced, u = openly n produced) : Honest countType us := by
  intro u hu e _ y hy
  obtain ⟨n, produced, rfl⟩ := h u hu
  exact List.mem_map_of_mem hy

/-- Three upgraders, each registered before the one whose events it replaces. -/
def backward (maxPasses : Nat) : UpgraderChain Nat :=
  ⟨[openly 3 [4, 5], openly 2 [3, 5], openly 1 [2, 2]], maxPasses⟩

/-- The same upgraders, each registered after the one whose events it replaces. -/
def forward (maxPasses : Nat) : UpgraderChain Nat :=
  ⟨[openly 1 [2, 2], openly 2 [3, 5], openly 3 [4, 5]], maxPasses⟩

/-- A pass less than the bound asks for is not enough. -/
example : (backward 3).upgrade countType 1 = .error (.upgradeLimit (countType 1) 3) := by rfl

/-- **Four passes are enough backward, and two forward.** -/
theorem ends_of_backward_of_forward :
    (Built (backward 4) ∧ Honest countType (backward 4).upgraders ∧
        (backward 4).upgraders.length + 1 ≤ (backward 4).maxPasses ∧
        Ends countType (backward 4) 1) ∧
      Built (forward 2) ∧ Honest countType (forward 2).upgraders ∧
        Forward (forward 2).upgraders ∧ 2 ≤ (forward 2).maxPasses ∧
        Ends countType (forward 2) 1 := by
  have hbackward : Built (backward 4) := by
    have hone : (⟨[], 4⟩ : UpgraderChain Nat).register (openly 3 [4, 5]) =
        .ok ⟨[openly 3 [4, 5]], 4⟩ := by
      cbv
    have htwo : (⟨[openly 3 [4, 5]], 4⟩ : UpgraderChain Nat).register (openly 2 [3, 5]) =
        .ok ⟨[openly 3 [4, 5], openly 2 [3, 5]], 4⟩ := by
      cbv
    have hthree : (⟨[openly 3 [4, 5], openly 2 [3, 5]], 4⟩ : UpgraderChain Nat).register
        (openly 1 [2, 2]) = .ok (backward 4) := by
      cbv
    exact (((Built.new.withMaxPasses 4).register hone).register htwo).register hthree
  have hforward : Built (forward 2) := by
    have hone : (⟨[], 2⟩ : UpgraderChain Nat).register (openly 1 [2, 2]) =
        .ok ⟨[openly 1 [2, 2]], 2⟩ := by
      cbv
    have htwo : (⟨[openly 1 [2, 2]], 2⟩ : UpgraderChain Nat).register (openly 2 [3, 5]) =
        .ok ⟨[openly 1 [2, 2], openly 2 [3, 5]], 2⟩ := by
      cbv
    have hthree : (⟨[openly 1 [2, 2], openly 2 [3, 5]], 2⟩ : UpgraderChain Nat).register
        (openly 3 [4, 5]) = .ok (forward 2) := by
      cbv
    exact (((Built.new.withMaxPasses 2).register hone).register htwo).register hthree
  have honestBackward : Honest countType (backward 4).upgraders :=
    honest_openly (by simp [backward])
  have honestForward : Honest countType (forward 2).upgraders :=
    honest_openly (by simp [forward])
  have hways : Forward (forward 2).upgraders := by
    unfold Forward
    decide
  exact ⟨⟨hbackward, honestBackward, by decide,
      (ends_of_honest hbackward honestBackward 1).1 (by decide)⟩,
    hforward, honestForward, hways, by decide,
    (ends_of_honest hforward honestForward 1).2 hways (by decide)⟩

end EventLedger.UpgraderChain
