import EventLedger.Proofs.Upgrades.Expansion
import Mathlib.Data.List.Chain
import Mathlib.Logic.Relation
import Mathlib.Order.WellFounded

/-!
# Declared outputs without cycles

The declared outputs of a chain's upgraders are the edges of a graph.  An upgrader is registered
only if none of its outputs leads back to its input, which a depth first search decides.  What is on
the stack of the search is a walk from one of the outputs; what is left out of it is, when the stack
is empty, a set of types that no edge leaves.  So the search finds a walk if and only if there is
one.

A new upgrader closes a cycle only through its own input, because the graph had none before: that is
the invariant of all chains that are built.

## Main definitions

* `UpgraderChain.Declares` — the edges of the graph.
* `UpgraderChain.Acyclic` — no walk along edges leads from a type back to it.
* `UpgraderChain.SearchStep` — one round of the search.
* `UpgraderChain.ClosedWalk` — a walk from the input of an upgrader through one of its outputs back.
* `UpgraderChain.Registers` — what registering an upgrader does.

## Main results

* `UpgraderChain.wellFounded_searchStep` — **the search ends on every graph.**
* `UpgraderChain.findPath_eq_none_iff` — the search finds a walk if there is one.
* `UpgraderChain.acyclic_concat_iff` — when a new upgrader closes a cycle.
* `UpgraderChain.registers_of_built` — **registering refuses duplicates and cycles, and nothing
  else**, so that every chain that is built has neither.
-/

namespace EventLedger.UpgraderChain

open Relation (ReflTransGen TransGen)

variable {ε : Type} {us : List (Upgrader ε)} {u : Upgrader ε} {c : UpgraderChain ε}
  {t t' target : EventType} {visited path : List EventType} {stack : List Trail}

/-! ### The declared graph -/

/-- Some upgrader of `t` is declared to produce `t'`. -/
def Declares (us : List (Upgrader ε)) (t t' : EventType) : Prop :=
  ∃ u ∈ us, u.input = t ∧ t' ∈ u.outputs

/-- Declared outputs never lead from a type back to it. -/
def Acyclic (us : List (Upgrader ε)) : Prop := ∀ t, ¬TransGen (Declares us) t t

theorem declares_concat_iff :
    Declares (us ++ [u]) t t' ↔ Declares us t t' ∨ u.input = t ∧ t' ∈ u.outputs := by
  simp [Declares, or_and_right, exists_or]

theorem acyclic_nil : Acyclic ([] : List (Upgrader ε)) := by
  intro t h
  obtain ⟨t', ⟨u, hu, -⟩, -⟩ := TransGen.head'_iff.1 h
  cases hu

theorem declares_of_mem_successors (h : t' ∈ successors us t) : Declares us t t' := by
  unfold successors at h
  cases hfind : us.find? fun u => u.input == t with
  | none => simp [hfind] at h
  | some u =>
    rw [hfind] at h
    exact ⟨u, List.mem_of_find?_eq_some hfind, by simpa using List.find?_some hfind, h⟩

/-- The successors of a type are its declared outputs, if no input has two upgraders. -/
theorem mem_successors_iff (hus : (us.map (·.input)).Nodup) :
    t' ∈ successors us t ↔ Declares us t t' := by
  refine ⟨declares_of_mem_successors, ?_⟩
  rintro ⟨u, hu, rfl, ht'⟩
  unfold successors
  cases hfind : us.find? fun v => v.input == u.input with
  | none => exact absurd (List.find?_eq_none.1 hfind u hu) (by simp)
  | some v =>
    have hinput : v.input = u.input := by simpa using List.find?_some hfind
    rwa [List.inj_on_of_nodup_map hus (List.mem_of_find?_eq_some hfind) hu hinput]

/-! ### The search, round by round -/

/-- One round of the search, on the visited types and the stack: the trail on top is taken off, and
unless it ends at a visited type, the trails that go on from there are put onto the stack. -/
inductive SearchStep (us : List (Upgrader ε)) (target : EventType) :
    List EventType × List Trail → List EventType × List Trail → Prop
  | skip {t : EventType} {path visited : List EventType} {stack : List Trail} :
      t ≠ target → t ∈ visited →
      SearchStep us target (visited, (t, path) :: stack) (visited, stack)
  | expand {t : EventType} {path visited : List EventType} {stack : List Trail} :
      t ≠ target → t ∉ visited →
      SearchStep us target (visited, (t, path) :: stack)
        (t :: visited, ((successors us t).map fun s => (s, s :: path)).reverse ++ stack)

/-- What the search yields when no round is left. -/
def found : List Trail → Option (List EventType)
  | [] => none
  | (_, path) :: _ => some path.reverse

/-- **The search ends on every graph**: a round visits another type that has an upgrader, or leaves
the stack shorter. -/
theorem wellFounded_searchStep (us : List (Upgrader ε)) (target : EventType) :
    WellFounded fun next s => SearchStep us target s next := by
  refine Subrelation.wf (r := InvImage (Prod.Lex (· < ·) (· < ·))
    fun s : List EventType × List Trail => (unvisited us s.1, s.2.length)) ?_
    (InvImage.wf _ (WellFounded.prod_lex Nat.lt_wfRel.wf Nat.lt_wfRel.wf))
  intro next s h
  cases h with
  | skip => exact Prod.Lex.right _ (Nat.lt_succ_self _)
  | @expand t path visited stack _ hnew =>
    by_cases hmem : t ∈ us.map (·.input)
    · exact Prod.Lex.left _ _ (unvisited_cons_lt hmem hnew)
    · -- a type without an upgrader leads nowhere
      simp only [InvImage, successors_eq_nil hmem]
      rcases Nat.lt_or_eq_of_le (unvisited_cons_le us visited t) with hlt | heq
      · exact Prod.Lex.left _ _ hlt
      · rw [heq]
        exact Prod.Lex.right _ (Nat.lt_succ_self _)

/-- The search goes round by round until the stack is empty or its top ends at the target. -/
theorem exists_rounds (us : List (Upgrader ε)) (target : EventType) (visited : List EventType)
    (stack : List Trail) : ∃ visited' stack',
      ReflTransGen (SearchStep us target) (visited, stack) (visited', stack') ∧
        (∀ t path rest, stack' = (t, path) :: rest → t = target) ∧
        search us target visited stack = found stack' := by
  fun_induction search us target visited stack with
  | case1 visited => exact ⟨visited, [], .refl, by simp, rfl⟩
  | case2 visited path stack =>
    refine ⟨visited, (target, path) :: stack, .refl, ?_, rfl⟩
    rintro t path' rest h
    cases h
    rfl
  | case3 visited t path stack ht hold ih =>
    obtain ⟨visited', stack', hrounds, hstop⟩ := ih
    exact ⟨visited', stack', .head (.skip ht hold) hrounds, hstop⟩
  | case4 visited t path stack ht hnew ih =>
    obtain ⟨visited', stack', hrounds, hstop⟩ := ih
    exact ⟨visited', stack', .head (.expand ht hnew) hrounds, hstop⟩

/-! ### What the search finds -/

/-- The types are a walk along declared outputs from one of `starts` to `t`. -/
structure Leads (us : List (Upgrader ε)) (starts : List EventType) (t : EventType)
    (walk : List EventType) : Prop where
  first : ∃ s ∈ starts, walk.head? = some s
  last : walk.getLast? = some t
  steps : walk.IsChain (Declares us)

/-- A walk goes on along a declared output. -/
theorem Leads.extend {starts walk : List EventType} (h : Leads us starts t walk)
    (ht' : t' ∈ successors us t) : Leads us starts t' (walk ++ [t']) where
  first := by
    obtain ⟨s, hs, hhead⟩ := h.first
    exact ⟨s, hs, by rw [List.head?_append, hhead, Option.some_or]⟩
  last := List.getLast?_concat
  steps := by
    refine h.steps.append (.singleton t') ?_
    intro a ha b hb
    obtain rfl : t = a := Option.some.inj (h.last.symm.trans ha)
    obtain rfl : t' = b := Option.some.inj hb
    exact declares_of_mem_successors ht'

/-- A walk leads from its start to its end. -/
theorem Leads.exists_reaches {starts walk : List EventType} (h : Leads us starts t walk) :
    ∃ s ∈ starts, ReflTransGen (Declares us) s t := by
  obtain ⟨s, hs, hhead⟩ := h.first
  obtain ⟨rest, rfl⟩ := List.head?_eq_some_iff.1 hhead
  refine ⟨s, hs, List.relationReflTransGen_of_exists_isChain_cons rest h.steps ?_⟩
  exact Option.some.inj ((List.getLast?_eq_some_getLast _).symm.trans h.last)

/-- **What is found is a walk to the target**, if all that is on the stack are walks. -/
theorem leads_of_search_eq_some {starts walk : List EventType}
    (hstack : ∀ p ∈ stack, Leads us starts p.1 p.2.reverse)
    (h : search us target visited stack = some walk) : Leads us starts target walk := by
  fun_induction search us target visited stack with
  | case1 visited => cases h
  | case2 visited path stack =>
    obtain rfl := Option.some.inj h
    exact hstack _ List.mem_cons_self
  | case3 visited t path stack ht hold ih => exact ih (fun p hp => hstack p (.tail _ hp)) h
  | case4 visited t path stack ht hnew ih =>
    refine ih (fun p hp => ?_) h
    rcases List.mem_append.1 hp with hp | hp
    · obtain ⟨t', ht', rfl⟩ := List.mem_map.1 (List.mem_reverse.1 hp)
      rw [List.reverse_cons]
      exact (hstack _ List.mem_cons_self).extend ht'
    · exact hstack p (.tail _ hp)

/-- **A search without a find has gone everywhere**: the types that it has seen hold all that was on
the stack, and no declared output leaves them. -/
theorem exists_closed_of_search_eq_none (hvisited : target ∉ visited)
    (hseen : ∀ t ∈ visited, ∀ t' ∈ successors us t, t' ∈ visited ∨ ∃ p, (t', p) ∈ stack)
    (h : search us target visited stack = none) :
    ∃ seen : List EventType, visited ⊆ seen ∧ (∀ p ∈ stack, p.1 ∈ seen) ∧
      (∀ t ∈ seen, ∀ t' ∈ successors us t, t' ∈ seen) ∧ target ∉ seen := by
  fun_induction search us target visited stack with
  | case1 visited =>
    refine ⟨visited, List.Subset.refl _, by simp, fun t ht t' ht' => ?_, hvisited⟩
    rcases hseen t ht t' ht' with hmem | ⟨p, hp⟩
    · exact hmem
    · cases hp
  | case2 visited path stack => cases h
  | case3 visited t path stack ht hold ih =>
    have hseen' : ∀ a ∈ visited, ∀ a' ∈ successors us a, a' ∈ visited ∨ ∃ p, (a', p) ∈ stack := by
      intro a ha a' ha'
      rcases hseen a ha a' ha' with hmem | ⟨p, hp⟩
      · exact .inl hmem
      · rcases List.mem_cons.1 hp with heq | hp
        · cases heq
          exact .inl hold
        · exact .inr ⟨p, hp⟩
    obtain ⟨seen, hsub, hstack, hclosed, htarget⟩ := ih hvisited hseen' h
    exact ⟨seen, hsub, List.forall_mem_cons.2 ⟨hsub hold, hstack⟩, hclosed, htarget⟩
  | case4 visited t path stack ht hnew ih =>
    have hvisited' : target ∉ t :: visited := by
      simp only [List.mem_cons, not_or]
      exact ⟨fun heq => ht heq.symm, hvisited⟩
    have hseen' : ∀ a ∈ t :: visited, ∀ a' ∈ successors us a, a' ∈ t :: visited ∨
        ∃ p, (a', p) ∈ ((successors us t).map fun s => (s, s :: path)).reverse ++ stack := by
      intro a ha a' ha'
      rcases List.mem_cons.1 ha with rfl | ha
      · -- what the new type leads to has been put onto the stack
        refine .inr ⟨a' :: path, List.mem_append_left _ (List.mem_reverse.2 ?_)⟩
        exact List.mem_map.2 ⟨a', ha', rfl⟩
      · rcases hseen a ha a' ha' with hmem | ⟨p, hp⟩
        · exact .inl (.tail _ hmem)
        · rcases List.mem_cons.1 hp with heq | hp
          · cases heq
            exact .inl (.head _)
          · exact .inr ⟨p, List.mem_append_right _ hp⟩
    obtain ⟨seen, hsub, hstack, hclosed, htarget⟩ := ih hvisited' hseen' h
    refine ⟨seen, fun a ha => hsub (.tail _ ha), List.forall_mem_cons.2 ⟨hsub (.head _), ?_⟩,
      hclosed, htarget⟩
    exact fun p hp => hstack p (List.mem_append_right _ hp)

/-- What is found is a walk from one of the starts. -/
theorem leads_of_findPath_eq_some {starts walk : List EventType}
    (h : findPath us starts target = some walk) : Leads us starts target walk := by
  refine leads_of_search_eq_some (fun p hp => ?_) h
  obtain ⟨s, hs, rfl⟩ := List.mem_map.1 (List.mem_reverse.1 hp)
  exact ⟨⟨s, hs, rfl⟩, rfl, .singleton s⟩

/-- **The search finds a walk if there is one.** -/
theorem findPath_eq_none_iff (hus : (us.map (·.input)).Nodup) {starts : List EventType} :
    findPath us starts target = none ↔ ∀ s ∈ starts, ¬ReflTransGen (Declares us) s target := by
  constructor
  · intro h s hs hreaches
    obtain ⟨seen, -, hstack, hclosed, htarget⟩ :=
      exists_closed_of_search_eq_none (by simp) (by simp) h
    have hstays : ∀ {t}, ReflTransGen (Declares us) s t → t ∈ seen := by
      intro t hreaches
      induction hreaches with
      | refl => exact hstack (s, [s]) (by simpa using hs)
      | tail _ hdeclares ih => exact hclosed _ ih _ ((mem_successors_iff hus).2 hdeclares)
    exact htarget (hstays hreaches)
  · intro h
    cases hfound : findPath us starts target with
    | none => rfl
    | some path =>
      obtain ⟨s, hs, hreaches⟩ := (leads_of_findPath_eq_some hfound).exists_reaches
      exact absurd hreaches (h s hs)

/-! ### One more upgrader -/

/-- A walk in the larger graph is one in the smaller graph, or it goes through the new upgrader,
once if none of its outputs leads back to its input. -/
theorem transGen_concat (hback : ∀ s ∈ u.outputs, ¬ReflTransGen (Declares us) s u.input)
    (h : TransGen (Declares (us ++ [u])) t t') :
    TransGen (Declares us) t t' ∨
      ReflTransGen (Declares us) t u.input ∧ ∃ s ∈ u.outputs, ReflTransGen (Declares us) s t' := by
  induction h with
  | single hdeclares =>
    rcases declares_concat_iff.1 hdeclares with hold | ⟨rfl, houtput⟩
    · exact .inl (.single hold)
    · exact .inr ⟨.refl, _, houtput, .refl⟩
  | tail _ hdeclares ih =>
    rcases declares_concat_iff.1 hdeclares with hold | ⟨rfl, houtput⟩
    · rcases ih with ih | ⟨hbefore, s, hs, hafter⟩
      · exact .inl (ih.tail hold)
      · exact .inr ⟨hbefore, s, hs, hafter.tail hold⟩
    · rcases ih with ih | ⟨-, s, hs, hafter⟩
      · exact .inr ⟨ih.to_reflTransGen, _, houtput, .refl⟩
      · exact absurd hafter (hback s hs)

/-- **A new upgrader closes a cycle if and only if one of its outputs leads back to its input.** -/
theorem acyclic_concat_iff (hus : Acyclic us) :
    Acyclic (us ++ [u]) ↔ ∀ s ∈ u.outputs, ¬ReflTransGen (Declares us) s u.input := by
  constructor
  · intro h s hs hreaches
    have hfirst : Declares (us ++ [u]) u.input s := declares_concat_iff.2 (.inr ⟨rfl, hs⟩)
    have hold : ReflTransGen (Declares (us ++ [u])) s u.input :=
      hreaches.lift id fun _ _ hold => declares_concat_iff.2 (.inl hold)
    exact h u.input (.head' hfirst hold)
  · intro hback t hcycle
    rcases transGen_concat hback hcycle with hold | ⟨hbefore, s, hs, hafter⟩
    · exact hus t hold
    · exact hback s hs (hafter.trans hbefore)

/-- An upgrader that was registered closes no cycle. -/
theorem findPath_of_register {c' : UpgraderChain ε} (h : c.register u = .ok c') :
    findPath c.upgraders u.outputs u.input = none := by
  unfold register at h
  split at h
  · cases h
  · split at h
    · cases h
    next hpath => exact hpath

/-- **Every chain that is built has an acyclic graph.** -/
theorem Built.acyclic (h : Built c) : Acyclic c.upgraders := by
  induction h with
  | new => exact acyclic_nil
  | withMaxPasses n _ ih => exact ih
  | register hbuilt hregister ih =>
    have hpath := (findPath_eq_none_iff hbuilt.nodup).1 (findPath_of_register hregister)
    obtain ⟨-, rfl⟩ := of_register hregister
    exact (acyclic_concat_iff ih).2 hpath

/-! ### Registering -/

/-- The types are a walk from the input of the new upgrader to one of its outputs, on along declared
outputs, and back to the input. -/
structure ClosedWalk (us : List (Upgrader ε)) (u : Upgrader ε) (walk : List EventType) : Prop where
  first : walk.head? = some u.input
  second : ∃ s ∈ u.outputs, walk[1]? = some s
  steps : walk.tail.IsChain (Declares us)
  last : walk.getLast? = some u.input

/-- What registering an upgrader does: it fails if the input has an upgrader already, else if the
declared graph with the new edges has a cycle, which it then names, and else it adds the upgrader.
-/
structure Registers (c : UpgraderChain ε) (u : Upgrader ε) : Prop where
  duplicate : (∃ t, c.register u = .error (.duplicateUpgrader t)) ↔
    ∃ v ∈ c.upgraders, v.input = u.input
  named : ∀ t, c.register u = .error (.duplicateUpgrader t) → t = u.input
  cycle : (∀ v ∈ c.upgraders, v.input ≠ u.input) →
    ((∃ text, c.register u = .error (.upgraderCycle text)) ↔ ¬Acyclic (c.upgraders ++ [u]))
  walk : ∀ text, c.register u = .error (.upgraderCycle text) →
    ∃ walk, ClosedWalk c.upgraders u walk ∧ text = " -> ".intercalate (walk.map EventType.text)
  added : (∀ v ∈ c.upgraders, v.input ≠ u.input) → Acyclic (c.upgraders ++ [u]) →
    c.register u = .ok { c with upgraders := c.upgraders ++ [u] }

theorem register_of_mem (h : ∃ v ∈ c.upgraders, v.input = u.input) :
    c.register u = .error (.duplicateUpgrader u.input) := by
  unfold register
  rw [if_pos (by simpa using h)]

theorem register_of_new (h : ∀ v ∈ c.upgraders, v.input ≠ u.input) :
    c.register u = match findPath c.upgraders u.outputs u.input with
      | some path =>
        .error (.upgraderCycle (" -> ".intercalate ((u.input :: path).map EventType.text)))
      | none => .ok { c with upgraders := c.upgraders ++ [u] } := by
  unfold register
  exact if_neg (by simpa using h)

/-- A walk from an output of the new upgrader to its input, put after the input, is closed. -/
theorem Leads.closedWalk {walk : List EventType} (h : Leads us u.outputs u.input walk) :
    ClosedWalk us u (u.input :: walk) where
  first := rfl
  second := by
    obtain ⟨s, hs, hhead⟩ := h.first
    exact ⟨s, hs, by rw [List.getElem?_cons_succ, ← List.head?_eq_getElem?, hhead]⟩
  steps := h.steps
  last := by rw [List.getLast?_cons, h.last, Option.getD_some]

theorem Built.registers (h : Built c) (u : Upgrader ε) : Registers c u := by
  have hfind : findPath c.upgraders u.outputs u.input = none ↔ Acyclic (c.upgraders ++ [u]) :=
    (findPath_eq_none_iff h.nodup).trans (acyclic_concat_iff h.acyclic).symm
  by_cases hnew : ∀ v ∈ c.upgraders, v.input ≠ u.input
  · have hregister := register_of_new hnew
    cases hpath : findPath c.upgraders u.outputs u.input with
    | none =>
      rw [hpath] at hregister
      have hacyclic := hfind.1 hpath
      constructor
      · simpa [hregister] using hnew
      · simp [hregister]
      · simp [hregister, hacyclic]
      · simp [hregister]
      · exact fun _ _ => hregister
    | some path =>
      rw [hpath] at hregister
      have hcycle : ¬Acyclic (c.upgraders ++ [u]) := fun hacyclic => by
        rw [hfind.2 hacyclic] at hpath
        cases hpath
      constructor
      · simpa [hregister] using hnew
      · simp [hregister]
      · simp [hregister, hcycle]
      · intro text htext
        rw [hregister] at htext
        cases htext
        exact ⟨_, (leads_of_findPath_eq_some hpath).closedWalk, rfl⟩
      · exact fun _ hacyclic => absurd hacyclic hcycle
  · have hold : ∃ v ∈ c.upgraders, v.input = u.input := by simpa using hnew
    have hregister := register_of_mem hold
    constructor
    · simpa [hregister] using hold
    · intro t ht
      rw [hregister] at ht
      cases ht
      rfl
    · exact fun h => absurd h hnew
    · simp [hregister]
    · exact fun h => absurd h hnew

/-- **Registering refuses duplicates and cycles, and nothing else**, so that every chain that is
built has neither; and its search ends on every graph, with what it yields. -/
theorem registers_of_built (h : Built c) :
    (∀ u, Registers c u) ∧ (c.upgraders.map (·.input)).Nodup ∧ Acyclic c.upgraders ∧
      ∀ (us : List (Upgrader ε)) (starts : List EventType) (target : EventType),
        (WellFounded fun next s => SearchStep us target s next) ∧
          ∃ visited stack,
            ReflTransGen (SearchStep us target) ([], (starts.map fun t => (t, [t])).reverse)
              (visited, stack) ∧
            (∀ t path rest, stack = (t, path) :: rest → t = target) ∧
            findPath us starts target = found stack :=
  ⟨h.registers, h.nodup, h.acyclic, fun us _ target =>
    ⟨wellFounded_searchStep us target, exists_rounds us target [] _⟩⟩

/-! ### A graph with two ways -/

/-- An upgrader of the type with number `n` that is declared to produce those with the given
numbers. -/
def declared (n : Nat) (outputs : List Nat) : Upgrader Nat :=
  ⟨countType n, outputs.map countType, fun _ => []⟩

/-- A chain whose declared outputs lead from 1 to 4 in two ways. -/
def diamond : UpgraderChain Nat := ⟨[declared 1 [2, 3, 3], declared 2 [4], declared 3 [4]], 16⟩

theorem built_diamond : Built diamond := by
  have hone : ({} : UpgraderChain Nat).register (declared 1 [2, 3, 3]) =
      .ok ⟨[declared 1 [2, 3, 3]], 16⟩ := by
    cbv
  have htwo : (⟨[declared 1 [2, 3, 3]], 16⟩ : UpgraderChain Nat).register (declared 2 [4]) =
      .ok ⟨[declared 1 [2, 3, 3], declared 2 [4]], 16⟩ := by
    cbv
  have hthree : (⟨[declared 1 [2, 3, 3], declared 2 [4]], 16⟩ : UpgraderChain Nat).register
      (declared 3 [4]) = .ok diamond := by
    cbv
  exact ((Built.new.register hone).register htwo).register hthree

/-- **An upgrader that leads from 4 back to 1 is refused**, with the way through 3. -/
theorem registers_of_diamond : Built diamond ∧
    (∃ walk, ClosedWalk diamond.upgraders (declared 4 [5, 1]) walk ∧
      "Count@v4 -> Count@v1 -> Count@v3 -> Count@v4" =
        " -> ".intercalate (walk.map EventType.text)) ∧
    ¬Acyclic (diamond.upgraders ++ [declared 4 [5, 1]]) := by
  have hregister : diamond.register (declared 4 [5, 1]) =
      .error (.upgraderCycle "Count@v4 -> Count@v1 -> Count@v3 -> Count@v4") := by
    cbv
  have hregisters := (registers_of_built built_diamond).1 (declared 4 [5, 1])
  exact ⟨built_diamond, hregisters.walk _ hregister,
    (hregisters.cycle (by decide)).1 ⟨_, hregister⟩⟩

end EventLedger.UpgraderChain
