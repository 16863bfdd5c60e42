import EventLedger.Proofs.Orders.Serializability
import Mathlib.Data.List.Induction

/-!
# The life of an order

A command is decided on a loaded order, and its event is stored later, after other commands may have
been decided and stored.  The numbers of the stream see to it that an event is only ever stored right
behind the events that its command was decided on.  So the rules hold along the whole stream: an
order is submitted at most once, by its last event and with lines, and each item always has one line
with a positive number of units.

## Main definitions

* `Order.Continues id es e` — the order that `es` describes may emit the event `e`.
* `Order.Lawful id es` — each event is one that the order before it may emit.
* `Order.Handles c` — the call loads an order, or gives it a command.
* `Order.Lifecycle s id` — what the stream of an order and all views of it are like.

## Main results

* `Order.Lawful.exists_rebuilt` — a lawful stream describes a well-kept order.
* `Order.Lawful.of_submitted` — a lawful stream ends when the order is submitted.
* `Order.lawful_of_reachable` — the streams of a system whose calls are commands are lawful.
* `Order.lifecycle_of_reachable` — **the life of an order under commands of any number of clients.**
-/

namespace EventLedger.Order

variable {id : AggregateId} {es before after : List CommittedEvent} {e : CommittedEvent}
  {x : OrderEvent} {root : OrderRoot}

/-! ### Lawful streams -/

/-- The order that the events describe may emit the event that is stored as `e`. -/
def Continues (id : AggregateId) (es : List CommittedEvent) (e : CommittedEvent) : Prop :=
  ∃ root x, rebuilt id es = .ok root ∧ root.state.Allows x ∧ e.type = x.type ∧
    e.payload = x.encode

/-- Each event is one that the order described by those before it may emit. -/
def Lawful (id : AggregateId) (es : List CommittedEvent) : Prop :=
  ∀ before e after, es = before ++ e :: after → Continues id before e

/-- An event that is applied to the order before it is read back from its stored form. -/
theorem rebuilt_concat {o : Order} (h : rebuilt id es = .ok root) (htype : e.type = x.type)
    (hpayload : e.payload = x.encode) (ho : aggregate.apply root.state x = .ok o) :
    rebuilt id (es ++ [e]) = .ok ⟨id, o, e.sequence, []⟩ := by
  let T := setting (fun _ => True) .empty False
  have hbound : T.bounds 16 := ⟨by decide, trivial⟩
  have hthorough : T.Thorough 16 := thorough (by decide)
  rw [rebuilt_eq] at h ⊢
  obtain ⟨xs, st, hxs, hst, rfl⟩ := AggregateStore.rebuilt_eq_ok.1 h
  have hshows : T.Shows id es st := ⟨xs, ⟨16, hbound, hxs⟩, hst⟩
  have hhandled : aggregate.handles (aggregate.typeOf x) = true := by
    unfold Aggregate.apply at ho
    unfold Aggregate.handles
    split at ho
    next hhandler => rw [hhandler, Option.isSome_some]
    next => cases ho
  have hreads : T.Reads id [e] [x] := by
    refine Setting.reads_of_written hbound ?_ (.cons ⟨htype, ?_⟩ .nil)
    · intro y hy
      rw [List.mem_singleton.1 hy]
      exact hhandled
    · rw [hpayload]
      rfl
  have hreplay : T.aggregate.replay st [x] = .ok o := by
    rw [Aggregate.replay, show T.aggregate.apply st x = .ok o from ho]
    rfl
  have hrebuilt := hthorough.rebuilt (hshows.append hreads hreplay)
  rw [List.getLast?_concat] at hrebuilt
  exact hrebuilt

/-- The order after an event that it may emit. -/
theorem Continues.exists_rebuilt (h : Continues id es e)
    (hkept : ∀ root, rebuilt id es = .ok root → WellKept root.state.lines) :
    ∃ o, rebuilt id (es ++ [e]) = .ok ⟨id, o, e.sequence, []⟩ ∧ WellKept o.lines ∧
      o.submitted = decide (e.type = OrderEvent.orderSubmittedType) := by
  obtain ⟨root, x, hroot, hallows, htype, hpayload⟩ := h
  obtain ⟨o, ho, hkeeps, hsubmitted⟩ := hallows.exists_apply
  refine ⟨o, rebuilt_concat hroot htype hpayload ho, hkeeps (hkept root hroot), ?_⟩
  rw [hsubmitted, htype, decide_eq_decide, type_eq_orderSubmittedType_iff]

theorem Lawful.left (h : Lawful id (before ++ after)) : Lawful id before := by
  rintro before' e after' rfl
  exact h before' e (after' ++ after) (by rw [List.append_assoc, List.cons_append])

theorem Lawful.last (h : Lawful id (es ++ [e])) : Continues id es e := h es e [] rfl

/-- **A lawful stream describes a well-kept order.** -/
theorem Lawful.exists_rebuilt (h : Lawful id es) :
    ∃ root, rebuilt id es = .ok root ∧ WellKept root.state.lines := by
  induction es using List.reverseRecOn with
  | nil => exact ⟨⟨id, {}, 0, []⟩, by rw [rebuilt_eq]; rfl, wellKept_nil⟩
  | append_singleton es e ih =>
    obtain ⟨root, hroot, hkept⟩ := ih h.left
    obtain ⟨o, ho, hokept, -⟩ := h.last.exists_rebuilt (by
      intro root' hroot'
      obtain rfl := Except.ok.inj (hroot.symm.trans hroot')
      exact hkept)
    exact ⟨_, ho, hokept⟩

theorem Lawful.wellKept (h : Lawful id es) (hroot : rebuilt id es = .ok root) :
    WellKept root.state.lines := by
  obtain ⟨root', hroot', hkept⟩ := h.exists_rebuilt
  obtain rfl := Except.ok.inj (hroot'.symm.trans hroot)
  exact hkept

/-- **A lawful stream ends when the order is submitted**, which has lines then. -/
theorem Lawful.of_submitted (h : Lawful id (before ++ e :: after))
    (he : e.type = OrderEvent.orderSubmittedType) :
    after = [] ∧ ∃ root, rebuilt id before = .ok root ∧ root.state.lines ≠ [] := by
  have hcontinues : Continues id before e := h before e after rfl
  constructor
  · cases after with
    | nil => rfl
    | cons e' rest =>
      -- the next event would have to be allowed by an order that is submitted
      rw [List.append_cons] at h
      obtain ⟨root, x, hroot, hallows, -⟩ := h (before ++ [e]) e' rest rfl
      obtain ⟨o, ho, -, hsubmitted⟩ := hcontinues.exists_rebuilt fun _ => h.left.left.wellKept
      obtain rfl := Except.ok.inj (ho.symm.trans hroot)
      rw [hallows.open, he, decide_eq_true rfl] at hsubmitted
      cases hsubmitted
  · obtain ⟨root, x, hroot, hallows, htype, -⟩ := hcontinues
    obtain rfl := type_eq_orderSubmittedType_iff.1 (htype.symm.trans he)
    exact ⟨root, hroot, hallows.2⟩

/-- A lawful stream submits its order at most once. -/
theorem Lawful.length_submitted_le (h : Lawful id es) :
    (es.filter (·.type = OrderEvent.orderSubmittedType)).length ≤ 1 := by
  rcases es.eq_nil_or_concat' with rfl | ⟨init, last, rfl⟩
  · exact Nat.zero_le 1
  · have hinit : init.filter (·.type = OrderEvent.orderSubmittedType) = [] := by
      rw [List.filter_eq_nil_iff]
      intro e he hsubmitted
      obtain ⟨before, after, rfl⟩ := List.append_of_mem he
      rw [List.append_assoc, List.cons_append] at h
      have hnil := (h.of_submitted (of_decide_eq_true hsubmitted)).1
      exact List.append_ne_nil_of_right_ne_nil after (List.cons_ne_nil last []) hnil
    rw [List.filter_append, hinit, List.nil_append]
    exact List.length_filter_le _ [last]

/-! ### Systems of commands -/

/-- The call loads an order, or gives it a command. -/
def Handles (c : Caller Order OrderEvent) : Prop :=
  c.task = .load ∨ ∃ source command,
    c.task = .update source fun root outcome => outcome = OrderCommand.decide command root

/-- What the stream of an order and all views of it are like. -/
structure Lifecycle (s : System Order OrderEvent) (id : AggregateId) : Prop where
  /-- The order is submitted at most once, -/
  once : ((s.world.events (key id)).filter (·.type = OrderEvent.orderSubmittedType)).length ≤ 1
  /-- by the last event of its stream and with lines. -/
  last : ∀ before e after, s.world.events (key id) = before ++ e :: after →
    e.type = OrderEvent.orderSubmittedType →
      after = [] ∧ ∃ root, rebuilt id before = .ok root ∧ root.state.lines ≠ []
  /-- At every moment of its life each item had one line, with a positive number of units, -/
  kept : ∀ before, before <+: s.world.events (key id) →
    ∃ root, rebuilt id before = .ok root ∧ WellKept root.state.lines
  /-- and what a load has shown of it is how it was at such a moment. -/
  viewed : ∀ (i : Nat) (c : Caller Order OrderEvent) (root : OrderRoot) (view : OrderView),
    s.calls[i]? = some (c, .done (.root root)) → c.id = id → OrderView.ofRoot? root = some view →
      WellKept view.lines ∧ ∃ before, before <+: s.world.events (key id) ∧
        view.version = before.length ∧ rebuilt id before = .ok root

variable {passes : Nat → Prop} {s : System Order OrderEvent}

/-- A batch of a command is one event, which the order before it may emit. -/
theorem DecidedAt.continues {c : Caller Order OrderEvent} {h : Commit Order OrderEvent} {V : Nat}
    (hd : DecidedAt es c h V) (hc : Handles c) :
    ∃ e, h.stored = [e] ∧ es[V]? = some e ∧ Continues c.id (es.take V) e := by
  obtain ⟨root, root', hroot, -, hdecide, hstored⟩ := hd.decided
  rcases hc with hload | ⟨source, command, htask⟩
  · simp [Caller.mayDecide, hload] at hdecide
  · have haccepted : command.decide root = .ok root' := by
      rw [Caller.mayDecide, htask] at hdecide
      exact hdecide.symm
    obtain ⟨hallows, hemit⟩ := OrderCommand.decide_eq_ok_iff.1 haccepted
    have huncommitted : root'.uncommitted = [command.event] := by
      rw [rebuilt_eq] at hroot
      obtain ⟨xs, st, -, -, rfl⟩ := AggregateStore.rebuilt_eq_ok.1 hroot
      exact Root.uncommitted_of_emit hemit
    rw [huncommitted] at hstored
    obtain ⟨e, rest, he, hrest, hone⟩ := List.forall₂_cons_left_iff.1 hstored
    obtain rfl := List.forall₂_nil_left_iff.1 hrest
    have hplace := congrArg List.head? hd.place
    rw [hone, List.length_singleton, List.head?_take, if_neg Nat.one_ne_zero,
      List.head?_drop] at hplace
    exact ⟨e, hone, hplace, root, command.event, hroot, hallows, he⟩

/-- **The streams of a system whose calls are commands are lawful.** -/
theorem lawful_of_reachable (hs : System.Reachable (setting passes .empty False) s)
    (hcalls : ∀ x ∈ s.calls, Handles x.1) (id : AggregateId) :
    Lawful id (s.world.events (key id)) := by
  have hgood := hs.good
  have hw := hgood.inv
  have hgap : (EventLog.empty.stream (key id)).GapFree := Stream.gapFree_empty
  have hstream := hw.gapFree (key id) hgap
  intro before e after hsplit
  -- the event is one that a commit has stored,
  have he : e ∈ Setting.eventsAfter (setting passes .empty False) (key id) s.world.history := by
    rw [← hw.events (key id) hgap, hsplit]
    exact List.mem_append_right before List.mem_cons_self
  obtain ⟨h, hh, heh⟩ : ∃ h ∈ History.commitsOn (key id) s.world.history, e ∈ h.stored := by
    rcases List.mem_append.1 he with hempty | hstored
    · cases hempty
    · obtain ⟨h, hh, heh⟩ := List.mem_flatMap.1 hstored
      exact ⟨h, List.mem_reverse.1 hh, heh⟩
  obtain ⟨newer, older, hcommits⟩ := List.append_of_mem hh
  obtain ⟨c, hc⟩ := hw.exists_author not_false hcommits
  obtain ⟨p, hp⟩ := hgood.call_of_author (List.mem_filter.1 hh).1 hc
  obtain ⟨hid, V, hdecided⟩ := exists_decidedAt hw hgap hcommits hc
  obtain ⟨e', hone, hV, hcontinues⟩ :=
    hdecided.continues (hcalls (c, p) (List.mem_of_getElem? hp))
  obtain rfl : e = e' := by
    rw [hone] at heh
    exact List.mem_singleton.1 heh
  -- and its number tells where
  have hplace : V = before.length := by
    refine hstream.eq_of_getElem? hV ?_
    rw [show (s.world.log.stream (key id)).values = _ from hsplit, List.getElem?_append_right
      (Nat.le_refl _), Nat.sub_self, List.getElem?_cons_zero]
  rw [hid, hplace, hsplit, List.take_left] at hcontinues
  exact hcontinues

/-- **The life of an order under commands of any number of clients**, which may cancel, deliver a
command again and use caches and snapshots: it is submitted at most once, at the end of its stream
and with lines, and it is well kept at every moment. -/
theorem lifecycle_of_reachable (hs : System.Reachable (setting passes .empty False) s)
    (hcalls : ∀ x ∈ s.calls, Handles x.1) (id : AggregateId) : Lifecycle s id := by
  have hlawful := lawful_of_reachable hs hcalls id
  constructor
  case once => exact hlawful.length_submitted_le
  case last =>
    intro before e after hsplit he
    rw [hsplit] at hlawful
    exact hlawful.of_submitted he
  case kept =>
    rintro before ⟨after, hsplit⟩
    rw [← hsplit] at hlawful
    exact hlawful.left.exists_rebuilt
  case viewed =>
    intro i c root view hi hid hview
    obtain ⟨-, hc, hended⟩ := hs.good.calls i c _ hi
    obtain ⟨st, V, rfl, -, hV, hshows⟩ := Setting.Ended.shown hended root rfl
    have hkey : c.key = key id := by
      rw [← hid]
      exact hc.fits.keyOf c.id
    rw [hkey] at hV hshows
    have hroot := rebuilt_of_shows (hs.good.inv.gapFree _ Stream.gapFree_empty) hV hshows
    unfold OrderView.ofRoot? at hview
    split at hview
    · cases hview
    · obtain rfl := Option.some.inj hview
      refine ⟨?_, (s.world.events (key id)).take V, List.take_prefix _ _, ?_, ?_⟩
      · rw [← List.take_append_drop V (s.world.events (key id))] at hlawful
        exact Lawful.wellKept hlawful.left (hid ▸ hroot)
      · rw [List.length_take, Nat.min_eq_left hV]
      · exact hid ▸ hroot

theorem handles_part (snapshots : Option SnapshotStrategy) (caching : Bool) (id : AggregateId)
    (command : Option (Option String × OrderCommand)) (number : Nat) :
    Handles ((part snapshots caching id command).caller number) := by
  cases command with
  | none => exact .inl rfl
  | some c => exact .inr ⟨c.1, c.2, rfl⟩

/-- Clients that add to an order and submit it at once, and one that loads it afterwards. -/
def closingParts : List (Part Order OrderEvent) :=
  [part (some (.every 1)) true legacyId (some (some "c1", .add "X" 2)),
    part none true legacyId (some (some "c2", .add "Y" 1)),
    part none false legacyId (some (some "c3", .submit)),
    part (some (.every 1)) true legacyId none]

/-- An item is to be added while the order is submitted: the order stays as it was submitted. -/
theorem lifecycle_of_closing : ∃ s : System Order OrderEvent,
    System.Reachable (setting (fun _ => True) .empty False) s ∧ (∀ x ∈ s.calls, Handles x.1) ∧
      History.conflicts 1 s.world.history = 1 ∧
      (s.world.events (key legacyId)).map (·.type) =
        [OrderEvent.itemAddedType, OrderEvent.orderSubmittedType] ∧
      Lifecycle s legacyId := by
  have hplay : (System.play? closingParts
      (.initial (setting (fun _ => True) .empty False) fun _ => .ofSeconds 60)
      (List.replicate 20 0 ++ List.replicate 10 1 ++ List.replicate 20 2 ++
        List.replicate 30 1 ++ List.replicate 20 3)).any (fun s => decide
          (History.conflicts 1 s.world.history = 1 ∧
            (s.world.events (key legacyId)).map (·.type) =
              [OrderEvent.itemAddedType, OrderEvent.orderSubmittedType])) = true := by
    decide +kernel
  have hparts : ∀ p ∈ closingParts, ∃ snapshots caching command,
      p = part snapshots caching legacyId command := by
    intro p hp
    simp only [closingParts, List.mem_cons, List.not_mem_nil, or_false] at hp
    rcases hp with rfl | rfl | rfl | rfl <;> exact ⟨_, _, _, rfl⟩
  have hgap : (EventLog.empty.stream (key legacyId)).GapFree := Stream.gapFree_empty
  obtain ⟨s, hs, hplays, hfacts⟩ := System.exists_reachable_of_play? (fun p hp i => by
    obtain ⟨snapshots, caching, command, rfl⟩ := hparts p hp
    exact admits_part trivial hgap i) hplay
  obtain ⟨hconflicts, htypes⟩ := of_decide_eq_true hfacts
  have hcalls : ∀ x ∈ s.calls, Handles x.1 := by
    rintro ⟨c, call⟩ hx
    obtain ⟨i, hi⟩ := List.getElem?_of_mem hx
    obtain ⟨p, hp, rfl⟩ := hplays i c call hi
    obtain ⟨snapshots, caching, command, rfl⟩ := hparts p (List.mem_of_getElem? hp)
    exact handles_part snapshots caching legacyId command i
  exact ⟨s, hs, hcalls, hconflicts, htypes, lifecycle_of_reachable hs hcalls legacyId⟩

end EventLedger.Order
