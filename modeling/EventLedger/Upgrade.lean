import EventLedger.Error

/-!
# Upgrading events

Stored events are never changed.  An upgrader turns an event of one type into events of newer
types, and a chain of upgraders is applied to every event that is read, until a pass changes
nothing.

## Main definitions

* `Upgrader`, `UpgraderChain` — an upgrader, and upgraders with a bound on passes.
* `UpgraderChain.findPath` — a path along declared outputs, searched depth first.
* `UpgraderChain.register` — one more upgrader, unless its input has one already or it closes a
  cycle.
* `UpgraderChain.upgrade` — the current form of an event.
-/

namespace EventLedger

/-- A rule that replaces events of one type. -/
structure Upgrader (ε : Type) where
  /-- The type that it replaces. -/
  input : EventType
  /-- The types that it is declared to produce. -/
  outputs : List EventType
  /-- The events that take the place of one. -/
  transform : ε → List ε

/-- Upgraders in the order in which they are applied. -/
structure UpgraderChain (ε : Type) where
  /-- The upgraders. -/
  upgraders : List (Upgrader ε) := []
  /-- How many passes upgrading one event may take. -/
  maxPasses : Nat := 16

namespace UpgraderChain

variable {ε : Type}

/-- The chain with another bound on passes, at least one. -/
def withMaxPasses (c : UpgraderChain ε) (n : Nat) : UpgraderChain ε :=
  { c with maxPasses := max n 1 }

/-- The declared outputs of the upgrader of a type. -/
def successors (us : List (Upgrader ε)) (t : EventType) : List EventType :=
  ((us.find? fun u => u.input == t).map (·.outputs)).getD []

/-- The paths to be searched: each ends at its first component and is listed from its end. -/
abbrev Trail := EventType × List EventType

/-- The types with an upgrader that are not among those visited. -/
def unvisited (us : List (Upgrader ε)) (visited : List EventType) : Nat :=
  ((us.map (·.input)).filter fun t => !visited.contains t).length

theorem unvisited_cons_le (us : List (Upgrader ε)) (visited : List EventType) (t : EventType) :
    unvisited us (t :: visited) ≤ unvisited us visited := by
  unfold unvisited
  generalize us.map (·.input) = ts
  induction ts with
  | nil => exact Nat.le_refl _
  | cons a rest ih =>
    simp only [List.filter_cons]
    by_cases hv : visited.contains a = true
    · -- `a` counts on neither side
      have ht : (t :: visited).contains a = true := by
        rw [List.contains_cons, hv, Bool.or_true]
      simp only [hv, ht, Bool.not_true, Bool.false_eq_true, if_false]
      exact ih
    · -- `a` counts on the right
      rw [Bool.not_eq_true] at hv
      simp only [hv, Bool.not_false, if_true, List.length_cons]
      split
      · exact Nat.succ_le_succ ih
      · exact Nat.le_succ_of_le ih

theorem unvisited_cons_lt {us : List (Upgrader ε)} {visited : List EventType} {t : EventType}
    (hmem : t ∈ us.map (·.input)) (hnew : t ∉ visited) :
    unvisited us (t :: visited) < unvisited us visited := by
  induction us with
  | nil => simp at hmem
  | cons u rest ih =>
    have hle := unvisited_cons_le rest visited t
    simp only [unvisited, List.map_cons, List.filter_cons] at hle ih ⊢
    rcases List.mem_cons.1 hmem with h | h
    · have h1 : ((t :: visited).contains u.input) = true := by simp [← h]
      have h2 : visited.contains u.input = false := by simpa [← h] using hnew
      simp only [h1, h2, Bool.not_true, Bool.not_false, if_true, List.length_cons,
        Bool.false_eq_true, if_false]
      omega
    · have hlt := ih h
      by_cases h2 : visited.contains u.input = true
      · have h1 : ((t :: visited).contains u.input) = true := by simp_all
        simp only [h1, h2, Bool.not_true, Bool.false_eq_true, if_false]
        exact hlt
      · by_cases h1 : ((t :: visited).contains u.input) = true
        · simp only [h1, h2, Bool.not_true, Bool.not_false, Bool.false_eq_true, if_true, if_false,
            List.length_cons]
          omega
        · simp only [h1, h2, Bool.not_false, if_true, List.length_cons]
          omega

theorem successors_eq_nil {us : List (Upgrader ε)} {t : EventType}
    (h : t ∉ us.map (·.input)) : successors us t = [] := by
  unfold successors
  rw [List.find?_eq_none.2]
  · rfl
  · intro u hu
    simp only [beq_iff_eq]
    rintro rfl
    exact h (List.mem_map_of_mem hu)

/-- A path along declared outputs to `target`, searched depth first from the trails on the stack,
the last one first.  No type is visited twice. -/
def search (us : List (Upgrader ε)) (target : EventType) (visited : List EventType) :
    List Trail → Option (List EventType)
  | [] => none
  | (t, path) :: stack =>
    if t = target then some path.reverse
    else if t ∈ visited then search us target visited stack
    else
      search us target (t :: visited)
        (((successors us t).map fun s => (s, s :: path)).reverse ++ stack)
termination_by stack => (unvisited us visited, stack.length)
decreasing_by
  · exact Prod.Lex.right _ (by simp)
  · by_cases h : t ∈ us.map (·.input)
    · exact Prod.Lex.left _ _ (unvisited_cons_lt h (by assumption))
    · rw [successors_eq_nil h]
      rcases Nat.lt_or_eq_of_le (unvisited_cons_le us visited t) with hlt | heq
      · exact Prod.Lex.left _ _ hlt
      · rw [heq]; exact Prod.Lex.right _ (by simp)

/-- A path along declared outputs from one of `starts` to `target`. -/
def findPath (us : List (Upgrader ε)) (starts : List EventType) (target : EventType) :
    Option (List EventType) :=
  search us target [] (starts.map fun t => (t, [t])).reverse

/-- The chain with one more upgrader at its end, unless its input has an upgrader already or its
declared outputs lead back to the input. -/
def register (c : UpgraderChain ε) (u : Upgrader ε) : Except Error (UpgraderChain ε) :=
  if c.upgraders.any fun v => v.input == u.input then .error (.duplicateUpgrader u.input)
  else
    match findPath c.upgraders u.outputs u.input with
    | some path =>
      .error (.upgraderCycle (" -> ".intercalate ((u.input :: path).map EventType.text)))
    | none => .ok { c with upgraders := c.upgraders ++ [u] }

/-- One upgrader applied to every event of its type; `none` if there is none. -/
def applyOne (typeOf : ε → EventType) (u : Upgrader ε) (events : List ε) : Option (List ε) :=
  if events.any fun e => typeOf e == u.input then
    some (events.flatMap fun e => if typeOf e == u.input then u.transform e else [e])
  else none

/-- One pass: every upgrader in turn.  Tells whether any was applied. -/
def pass (typeOf : ε → EventType) : List (Upgrader ε) → List ε → Bool × List ε
  | [], events => (false, events)
  | u :: us, events =>
    match applyOne typeOf u events with
    | none => pass typeOf us events
    | some events' => (true, (pass typeOf us events').2)

/-- Passes until one changes nothing; `none` if none of the given number does. -/
def passes (typeOf : ε → EventType) (us : List (Upgrader ε)) : Nat → List ε → Option (List ε)
  | 0, _ => none
  | n + 1, events =>
    match pass typeOf us events with
    | (false, events') => some events'
    | (true, events') => passes typeOf us n events'

/-- The current form of an event. -/
def upgrade (c : UpgraderChain ε) (typeOf : ε → EventType) (e : ε) : Except Error (List ε) :=
  if c.upgraders.isEmpty then .ok [e]
  else
    match passes typeOf c.upgraders c.maxPasses [e] with
    | some events => .ok events
    | none => .error (.upgradeLimit (typeOf e) c.maxPasses)

end UpgraderChain

end EventLedger
