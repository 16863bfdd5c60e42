import EventLedger.Upgrade
import Mathlib.Data.List.Nodup
import Mathlib.Logic.Function.Iterate

/-!
# Upgrading as expansion

A chain rewrites a whole list of events in passes, upgrader by upgrader, so how often an event is
rewritten within a pass depends on the order of the upgraders.  What comes out does not: it is what
one gets by replacing the event, then each of the events that take its place, and so on, in order,
until no upgrader is left that replaces any of them.  Nothing is assumed about the transforms; they
may produce other events than they declare, and then the bound on passes is the only thing that ends
a chain.

Each application of an upgrader leaves the expansion of the list as it is, since an input has one
upgrader only.  That is the invariant of a pass, and by induction of all of them.

## Main definitions

* `UpgraderChain.Built c` — the chain `c` arises by registering upgraders and setting bounds.
* `UpgraderChain.IsCurrent` — no upgrader replaces the event.
* `UpgraderChain.ExpandsAll`, `UpgraderChain.Expands` — what events, and what an event, expand to.
* `UpgraderChain.Replaces` — an event takes the place of another one.
* `UpgraderChain.afterPasses` — the events after a number of passes.

## Main results

* `UpgraderChain.expands_iff_of_mem`, `UpgraderChain.expandsAll_cons_iff` — the equations of the
  expansion.
* `UpgraderChain.ExpandsAll.unique`, `UpgraderChain.ExpandsAll.acc` — there is one expansion at most,
  and its recursion is well-founded.
* `UpgraderChain.expandsAll_of_pass` — a pass leaves the expansion as it is.
* `UpgraderChain.upgrade_of_built` — **upgrading yields the expansion**, in whatever order the
  upgraders were registered, or fails exactly when every pass applies an upgrader.
-/

namespace EventLedger.UpgraderChain

variable {ε : Type} {typeOf : ε → EventType} {us vs : List (Upgrader ε)} {u : Upgrader ε} {e : ε}
  {es r : List ε} {c c' : UpgraderChain ε}

/-! ### Chains that are built -/

/-- The chain arises by registering upgraders and setting bounds. -/
inductive Built : UpgraderChain ε → Prop
  | new : Built {}
  | withMaxPasses {c : UpgraderChain ε} (n : Nat) : Built c → Built (c.withMaxPasses n)
  | register {c c' : UpgraderChain ε} {u : Upgrader ε} : Built c → c.register u = .ok c' → Built c'

/-- An upgrader is registered at the end, and only if its input has none. -/
theorem of_register (h : c.register u = .ok c') :
    (∀ v ∈ c.upgraders, v.input ≠ u.input) ∧
      c' = { c with upgraders := c.upgraders ++ [u] } := by
  unfold register at h
  split at h
  · cases h
  next hnew =>
    split at h
    · cases h
    · obtain rfl := Except.ok.inj h
      exact ⟨by simpa using hnew, rfl⟩

/-- **An input has one upgrader only.** -/
theorem Built.nodup (h : Built c) : (c.upgraders.map (·.input)).Nodup := by
  induction h with
  | new => exact List.nodup_nil
  | withMaxPasses n _ ih => exact ih
  | register _ hregister ih =>
    obtain ⟨hnew, rfl⟩ := of_register hregister
    rw [List.map_append, List.map_singleton]
    refine List.nodup_append.2 ⟨ih, List.nodup_singleton _, ?_⟩
    intro t ht t' ht'
    obtain ⟨v, hv, rfl⟩ := List.mem_map.1 ht
    obtain rfl := List.mem_singleton.1 ht'
    exact hnew v hv

/-- A chain may take one pass at least. -/
theorem Built.maxPasses_pos (h : Built c) : 0 < c.maxPasses := by
  induction h with
  | new => exact Nat.succ_pos 15
  | withMaxPasses n _ _ => exact Nat.lt_of_lt_of_le Nat.one_pos (Nat.le_max_right n 1)
  | register _ hregister ih =>
    obtain ⟨-, rfl⟩ := of_register hregister
    exact ih

/-- No upgrader replaces the event. -/
def IsCurrent (typeOf : ε → EventType) (us : List (Upgrader ε)) (e : ε) : Prop :=
  ∀ u ∈ us, u.input ≠ typeOf e

/-! ### Expansions -/

/-- What events expand to, in order: an event that no upgrader replaces is kept, and for every other
one stands what the events that take its place expand to. -/
inductive ExpandsAll (typeOf : ε → EventType) (us : List (Upgrader ε)) : List ε → List ε → Prop
  | nil : ExpandsAll typeOf us [] []
  | keep {e : ε} {es r : List ε} : IsCurrent typeOf us e → ExpandsAll typeOf us es r →
      ExpandsAll typeOf us (e :: es) (e :: r)
  | replace {e : ε} {es p r : List ε} {u : Upgrader ε} : u ∈ us → u.input = typeOf e →
      ExpandsAll typeOf us (u.transform e) p → ExpandsAll typeOf us es r →
      ExpandsAll typeOf us (e :: es) (p ++ r)

/-- What an event expands to. -/
def Expands (typeOf : ε → EventType) (us : List (Upgrader ε)) (e : ε) (r : List ε) : Prop :=
  ExpandsAll typeOf us [e] r

/-- The event `y` is among those that take the place of `x`. -/
def Replaces (typeOf : ε → EventType) (us : List (Upgrader ε)) (y x : ε) : Prop :=
  ∃ u ∈ us, u.input = typeOf x ∧ y ∈ u.transform x

theorem expandsAll_nil_iff : ExpandsAll typeOf us [] r ↔ r = [] := by
  constructor
  · rintro ⟨⟩
    rfl
  · rintro rfl
    exact .nil

/-- Events expand one after the other. -/
theorem expandsAll_cons_iff : ExpandsAll typeOf us (e :: es) r ↔
    ∃ p q, Expands typeOf us e p ∧ ExpandsAll typeOf us es q ∧ r = p ++ q := by
  constructor
  · intro h
    cases h with
    | @keep _ _ q hcurrent hrest => exact ⟨[e], q, .keep hcurrent .nil, hrest, rfl⟩
    | @replace _ _ p q u hu hinput hparts hrest =>
      refine ⟨p, q, ?_, hrest, rfl⟩
      have hone := ExpandsAll.replace hu hinput hparts .nil
      rwa [List.append_nil] at hone
  · rintro ⟨p, q, hone, hrest, rfl⟩
    cases hone with
    | keep hcurrent hnil =>
      obtain rfl := expandsAll_nil_iff.1 hnil
      exact .keep hcurrent hrest
    | replace hu hinput hparts hnil =>
      obtain rfl := expandsAll_nil_iff.1 hnil
      rw [List.append_nil]
      exact .replace hu hinput hparts hrest

/-- **Expanding can be split anywhere.** -/
theorem expandsAll_append_iff {fs : List ε} : ExpandsAll typeOf us (es ++ fs) r ↔
    ∃ p q, ExpandsAll typeOf us es p ∧ ExpandsAll typeOf us fs q ∧ r = p ++ q := by
  induction es generalizing r with
  | nil => simp [expandsAll_nil_iff]
  | cons e es ih =>
    rw [List.cons_append, expandsAll_cons_iff]
    constructor
    · rintro ⟨p, _, hp, hrest, rfl⟩
      obtain ⟨q, q', hq, hq', rfl⟩ := ih.1 hrest
      exact ⟨p ++ q, q', expandsAll_cons_iff.2 ⟨p, q, hp, hq, rfl⟩, hq',
        (List.append_assoc p q q').symm⟩
    · rintro ⟨_, q', hfirst, hq', rfl⟩
      obtain ⟨p, q, hp, hq, rfl⟩ := expandsAll_cons_iff.1 hfirst
      exact ⟨p, q ++ q', hp, ih.2 ⟨q, q', hq, hq', rfl⟩, List.append_assoc p q q'⟩

/-- An event that is replaced expands to what the events that take its place expand to. -/
theorem expands_iff_of_mem (hus : (us.map (·.input)).Nodup) (hu : u ∈ us)
    (h : u.input = typeOf e) :
    Expands typeOf us e r ↔ ExpandsAll typeOf us (u.transform e) r := by
  constructor
  · intro hexpands
    cases hexpands with
    | keep hcurrent => exact absurd h (hcurrent u hu)
    | @replace _ _ p _ v hv hinput hparts hnil =>
      obtain rfl := List.inj_on_of_nodup_map hus hv hu (hinput.trans h.symm)
      rwa [expandsAll_nil_iff.1 hnil, List.append_nil]
  · intro hparts
    have hone := ExpandsAll.replace hu h hparts .nil
    rwa [List.append_nil] at hone

/-- Events may be replaced by others that expand in the same way. -/
theorem expandsAll_of_flatMap {f : ε → List ε}
    (h : ∀ e p, ExpandsAll typeOf us (f e) p → Expands typeOf us e p) : ∀ {es r : List ε},
    ExpandsAll typeOf us (es.flatMap f) r → ExpandsAll typeOf us es r
  | [], _, hall => hall
  | e :: es, r, hall => by
    rw [List.flatMap_cons] at hall
    obtain ⟨p, q, hp, hq, rfl⟩ := expandsAll_append_iff.1 hall
    exact expandsAll_cons_iff.2 ⟨p, q, h e p hp, expandsAll_of_flatMap h hq, rfl⟩

/-- Events that no upgrader replaces are their own expansion. -/
theorem expandsAll_of_isCurrent : ∀ {es : List ε}, (∀ e ∈ es, IsCurrent typeOf us e) →
    ExpandsAll typeOf us es es
  | [], _ => .nil
  | _ :: _, h =>
    .keep (h _ List.mem_cons_self) (expandsAll_of_isCurrent fun e he => h e (.tail _ he))

/-- **There is one expansion at most.** -/
theorem ExpandsAll.unique (hus : (us.map (·.input)).Nodup) {r' : List ε}
    (h : ExpandsAll typeOf us es r) (h' : ExpandsAll typeOf us es r') : r = r' := by
  induction h generalizing r' with
  | nil => exact (expandsAll_nil_iff.1 h').symm
  | keep hcurrent _ ih =>
    cases h' with
    | keep _ hrest => rw [ih hrest]
    | replace hu hinput => exact absurd hinput (hcurrent _ hu)
  | replace hu hinput _ _ ihparts ih =>
    cases h' with
    | keep hcurrent => exact absurd hinput (hcurrent _ hu)
    | replace hv hinput' hparts hrest =>
      obtain rfl := List.inj_on_of_nodup_map hus hv hu (hinput'.trans hinput.symm)
      rw [ihparts hparts, ih hrest]

/-- **An expansion is a recursion that is well-founded.** -/
theorem ExpandsAll.acc (hus : (us.map (·.input)).Nodup) (h : ExpandsAll typeOf us es r) :
    ∀ e ∈ es, Acc (Replaces typeOf us) e := by
  induction h with
  | nil =>
    intro e he
    cases he
  | keep hcurrent _ ih =>
    refine List.forall_mem_cons.2 ⟨Acc.intro _ ?_, ih⟩
    rintro y ⟨u, hu, hinput, -⟩
    exact absurd hinput (hcurrent u hu)
  | replace hu hinput _ _ ihparts ih =>
    refine List.forall_mem_cons.2 ⟨Acc.intro _ ?_, ih⟩
    rintro y ⟨v, hv, hinput', hy⟩
    obtain rfl := List.inj_on_of_nodup_map hus hv hu (hinput'.trans hinput.symm)
    exact ihparts y hy

/-- **The order of the upgraders does not matter for the expansion.** -/
theorem ExpandsAll.perm (hperm : vs.Perm us) (h : ExpandsAll typeOf vs es r) :
    ExpandsAll typeOf us es r := by
  induction h with
  | nil => exact .nil
  | keep hcurrent _ ih => exact .keep (fun u hu => hcurrent u (hperm.mem_iff.2 hu)) ih
  | replace hu hinput _ _ ihparts ih => exact .replace (hperm.mem_iff.1 hu) hinput ihparts ih

/-! ### Passes -/

/-- **An upgrader leaves the expansion as it is.** -/
theorem expandsAll_of_applyOne {es' : List ε} (hus : (us.map (·.input)).Nodup) (hu : u ∈ us)
    (happly : applyOne typeOf u es = some es') (h : ExpandsAll typeOf us es' r) :
    ExpandsAll typeOf us es r := by
  unfold applyOne at happly
  split at happly
  · obtain rfl := Option.some.inj happly
    refine expandsAll_of_flatMap ?_ h
    intro e p hp
    split at hp
    next hinput => exact (expands_iff_of_mem hus hu (beq_iff_eq.1 hinput).symm).2 hp
    next => exact hp
  · cases happly

/-- **A pass leaves the expansion as it is.** -/
theorem expandsAll_of_pass (hus : (us.map (·.input)).Nodup) :
    ∀ {vs : List (Upgrader ε)} {es : List ε}, (∀ v ∈ vs, v ∈ us) →
      ExpandsAll typeOf us (pass typeOf vs es).2 r → ExpandsAll typeOf us es r
  | [], _, _, h => h
  | v :: vs, es, hmem, h => by
    obtain ⟨hv, hvs⟩ := List.forall_mem_cons.1 hmem
    rw [pass] at h
    split at h
    next => exact expandsAll_of_pass hus hvs h
    next es' happly => exact expandsAll_of_applyOne hus hv happly (expandsAll_of_pass hus hvs h)

/-- A pass applies no upgrader if and only if it meets no event that one replaces, and then it
changes nothing. -/
theorem pass_fst_eq_false_iff : ∀ {us : List (Upgrader ε)},
    (pass typeOf us es).1 = false ↔ ∀ e ∈ es, IsCurrent typeOf us e
  | [] => by simp [pass, IsCurrent]
  | u :: us => by
    have hsplit : (∀ e ∈ es, IsCurrent typeOf (u :: us) e) ↔
        (∀ e ∈ es, u.input ≠ typeOf e) ∧ ∀ e ∈ es, IsCurrent typeOf us e := by
      simp only [IsCurrent, List.forall_mem_cons]
      exact ⟨fun h => ⟨fun e he => (h e he).1, fun e he => (h e he).2⟩,
        fun h e he => ⟨h.1 e he, h.2 e he⟩⟩
    rw [hsplit, pass, applyOne]
    by_cases hany : (es.any fun e => typeOf e == u.input) = true
    · obtain ⟨e, he, hinput⟩ := List.any_eq_true.1 hany
      rw [if_pos hany]
      constructor
      · intro h
        cases h
      · intro h
        exact absurd (beq_iff_eq.1 hinput).symm (h.1 e he)
    · rw [if_neg hany, pass_fst_eq_false_iff]
      refine ⟨fun h => ⟨fun e he heq => hany ?_, h⟩, fun h => h.2⟩
      exact List.any_eq_true.2 ⟨e, he, beq_iff_eq.2 heq.symm⟩

theorem pass_of_isCurrent : ∀ {us : List (Upgrader ε)}, (∀ e ∈ es, IsCurrent typeOf us e) →
    (pass typeOf us es).2 = es
  | [], _ => rfl
  | u :: us, h => by
    have hnone : applyOne typeOf u es = none := by
      rw [applyOne, if_neg]
      intro hany
      obtain ⟨e, he, hinput⟩ := List.any_eq_true.1 hany
      exact h e he u List.mem_cons_self (beq_iff_eq.1 hinput).symm
    rw [pass, hnone]
    exact pass_of_isCurrent fun e he v hv => h e he v (List.mem_cons_of_mem u hv)

/-- The events after a number of passes. -/
def afterPasses (typeOf : ε → EventType) (us : List (Upgrader ε)) (n : Nat) (es : List ε) : List ε :=
  (fun es => (pass typeOf us es).2)^[n] es

/-- **Passes that end yield the expansion.** -/
theorem expandsAll_of_passes (hus : (us.map (·.input)).Nodup) : ∀ {n : Nat} {es : List ε},
    passes typeOf us n es = some r →
      (∀ x ∈ r, IsCurrent typeOf us x) ∧ ExpandsAll typeOf us es r
  | 0, _, h => by cases h
  | n + 1, es, h => by
    have hpass : ExpandsAll typeOf us (pass typeOf us es).2 r → ExpandsAll typeOf us es r :=
      expandsAll_of_pass hus fun _ hv => hv
    rw [passes] at h
    split at h
    next es' hdone =>
      obtain rfl := Option.some.inj h
      have hcurrent : ∀ e ∈ es, IsCurrent typeOf us e := pass_fst_eq_false_iff.1 (by rw [hdone])
      obtain rfl : es = es' := by
        rw [← pass_of_isCurrent hcurrent, hdone]
      exact ⟨hcurrent, expandsAll_of_isCurrent hcurrent⟩
    next es' hmore =>
      rw [hmore] at hpass
      obtain ⟨hcurrent, hexpands⟩ := expandsAll_of_passes hus h
      exact ⟨hcurrent, hpass hexpands⟩

/-- **Passes do not end if and only if each of them applies an upgrader.** -/
theorem passes_eq_none_iff : ∀ {n : Nat} {es : List ε},
    passes typeOf us n es = none ↔
      ∀ i < n, (pass typeOf us (afterPasses typeOf us i es)).1 = true
  | 0, es => by simp [passes]
  | n + 1, es => by
    rw [Nat.forall_lt_succ_left, passes]
    change _ ↔ (pass typeOf us es).1 = true ∧ ∀ i < n,
      (pass typeOf us (afterPasses typeOf us i (pass typeOf us es).2)).1 = true
    cases hpass : pass typeOf us es with
    | mk applied es' =>
      cases applied with
      | false => simp
      | true => simpa using passes_eq_none_iff

/-! ### Upgrading -/

theorem upgrade_eq_ok (h : c.upgrade typeOf e = .ok r) (hpos : 0 < c.maxPasses) :
    passes typeOf c.upgraders c.maxPasses [e] = some r := by
  unfold upgrade at h
  split at h
  next hempty =>
    obtain rfl := Except.ok.inj h
    obtain ⟨n, hn⟩ := Nat.exists_eq_add_of_lt hpos
    rw [List.isEmpty_iff.1 hempty, hn, Nat.zero_add]
    rfl
  next =>
    split at h
    next hpasses =>
      obtain rfl := Except.ok.inj h
      exact hpasses
    next => cases h

theorem upgrade_eq_error_iff {x : Error} (hpos : 0 < c.maxPasses) :
    c.upgrade typeOf e = .error x ↔
      x = .upgradeLimit (typeOf e) c.maxPasses ∧
        passes typeOf c.upgraders c.maxPasses [e] = none := by
  cases hupgrade : c.upgrade typeOf e with
  | ok r => simp [upgrade_eq_ok hupgrade hpos]
  | error y =>
    unfold upgrade at hupgrade
    split at hupgrade
    · cases hupgrade
    · split at hupgrade
      · cases hupgrade
      next hnone =>
        obtain rfl := Except.error.inj hupgrade
        simp [hnone, eq_comm]

/-- What upgrading an event with a chain comes to. -/
structure Upgrades (typeOf : ε → EventType) (c : UpgraderChain ε) (e : ε) : Prop where
  /-- No upgrader replaces an event of the result. -/
  current : ∀ r, c.upgrade typeOf e = .ok r → ∀ x ∈ r, IsCurrent typeOf c.upgraders x
  /-- The result is the expansion of the event. -/
  expanded : ∀ r, c.upgrade typeOf e = .ok r → ∀ r', Expands typeOf c.upgraders e r' ↔ r' = r
  /-- If there is a result, the recursion of the expansion is well-founded. -/
  wellFounded : ∀ r, c.upgrade typeOf e = .ok r → Acc (Replaces typeOf c.upgraders) e
  /-- Chains of the same upgraders, registered in any order and with any bounds, agree wherever both
  have a result. -/
  agrees : ∀ r c' r', c.upgrade typeOf e = .ok r → Built c' → c'.upgraders.Perm c.upgraders →
    c'.upgrade typeOf e = .ok r' → r' = r
  /-- The only failure is that of the bound, and it is met exactly when each of the passes that the
  chain may take applies an upgrader. -/
  limit : ∀ x, c.upgrade typeOf e = .error x ↔
    x = .upgradeLimit (typeOf e) c.maxPasses ∧
      ∀ i < c.maxPasses, (pass typeOf c.upgraders (afterPasses typeOf c.upgraders i [e])).1 = true

/-- **Upgrading yields the expansion of an event**, whatever the order in which the upgraders were
registered, or fails because every pass applies an upgrader. -/
theorem upgrade_of_built (hc : Built c) (typeOf : ε → EventType) (e : ε) :
    Upgrades typeOf c e := by
  have hresult : ∀ {c : UpgraderChain ε} {r}, Built c → c.upgrade typeOf e = .ok r →
      (∀ x ∈ r, IsCurrent typeOf c.upgraders x) ∧ Expands typeOf c.upgraders e r :=
    fun hc h => expandsAll_of_passes hc.nodup (upgrade_eq_ok h hc.maxPasses_pos)
  refine ⟨fun r h => (hresult hc h).1, ?_,
    fun r h => (hresult hc h).2.acc hc.nodup e List.mem_cons_self, ?_, ?_⟩
  · intro r h r'
    constructor
    · intro h'
      exact h'.unique hc.nodup (hresult hc h).2
    · rintro rfl
      exact (hresult hc h).2
  · intro r c' r' h hc' hperm h'
    exact ((hresult hc' h').2.perm hperm).unique hc.nodup (hresult hc h).2
  · intro x
    rw [upgrade_eq_error_iff hc.maxPasses_pos, passes_eq_none_iff]

/-! ### A chain that hides what it produces -/

/-- Numbers as events, each of a type of its own. -/
def countType (n : Nat) : EventType := ⟨"Count", n⟩

/-- An upgrader that declares none of the events that it produces. -/
def silently (n : Nat) (produced : List Nat) : Upgrader Nat := ⟨countType n, [], fun _ => produced⟩

/-- A chain in which 2 is split, one of its parts is doubled and the other is dropped. -/
def counting : UpgraderChain Nat := ⟨[silently 1 [0, 0], silently 2 [1, 3], silently 3 []], 4⟩

/-- An upgrader without declared outputs closes no cycle. -/
theorem register_silently {c : UpgraderChain Nat} (n : Nat) (produced : List Nat)
    (hnew : ∀ v ∈ c.upgraders, v.input ≠ countType n) :
    c.register (silently n produced) =
      .ok { c with upgraders := c.upgraders ++ [silently n produced] } := by
  have hpath : findPath c.upgraders (silently n produced).outputs (silently n produced).input =
      none := by
    simp [findPath, search, silently]
  unfold register
  rw [if_neg (by simpa [silently] using hnew), hpath]

theorem built_counting : Built counting := by
  have hempty : Built (withMaxPasses ({} : UpgraderChain Nat) 4) := .withMaxPasses 4 .new
  have hdouble := hempty.register (register_silently 1 [0, 0] (by decide))
  have hsplit := hdouble.register (register_silently 2 [1, 3] (by decide))
  exact hsplit.register (register_silently 3 [] (by decide))

/-- What this chain makes of 2 is its expansion. -/
theorem expands_of_counting : Built counting ∧ counting.upgrade countType 2 = .ok [0, 0] ∧
    ∀ r, Expands countType counting.upgraders 2 r ↔ r = [0, 0] := by
  have hupgrade : counting.upgrade countType 2 = .ok [0, 0] := by rfl
  have hupgrades := upgrade_of_built built_counting countType 2
  exact ⟨built_counting, hupgrade, hupgrades.expanded _ hupgrade⟩

end EventLedger.UpgraderChain
