import EventLedger.Proofs.EventLog.Bookkeeping
import EventLedger.Proofs.EventLog.Pages
import EventLedger.Proofs.Json.Lines
import EventLedger.Proofs.Upkeep.Commands

/-!
# Listing the events

The listing asks for page after page and writes the events of each, one to a line, until a page is
empty or the limit is reached.  Every page is cut out of the events from its start on, and the next
one starts right behind it, so what is written, put together, is the beginning of one list, which
has nothing to do with the size of the pages.  An event is written as one line or not at all.

## Main definitions

* `EventLog.listed l start limit` — the events that a listing is about.
* `linesOf es` — the events, one to a line.
* `Output.text`, `Output.Clean`, `Output.withLines` — what has been written, an output that works
  and is at the start of a line, and an output after some more events.
* `AdminCall.Written` — how a part of a listing ends.
* `MemoryStorage.Lists` — what a listing comes to.

## Main results

* `AdminCall.eq_of_runsTo_writeEvents` — the events of a page are written up to the limit.
* `AdminCall.written_of_runsTo_tailFrom` — **the listing of what is left**, by induction on the
  numbers that are left.
* `split_linesOf` — the lines are told apart again.
* `MemoryStorage.lists_of_reachable` — **a listing writes the events that it is about, one to a
  line, whatever the size of its pages is**, and one that fails has written the first of them.
-/

namespace EventLedger

open Call (RunsTo)

/-! ### The events of a listing -/

/-- The first events, as many as a limit admits. -/
def capped (limit : Option Nat) (es : List CommittedEvent) : List CommittedEvent :=
  limit.elim es fun n => es.take n

/-- The stored events from a number on, in the order of their numbers, as many as a limit admits. -/
def EventLog.listed (l : EventLog) (start : Nat) (limit : Option Nat) : List CommittedEvent :=
  capped limit (l.all.filter (start ≤ ·.globalSequence))

/-- The events, one to a line. -/
def linesOf (es : List CommittedEvent) : String := String.join (es.map fun e => e.line ++ "\n")

section Capped

variable {limit : Option Nat} {es rest : List CommittedEvent}

theorem capped_append (limit : Option Nat) (es rest : List CommittedEvent) :
    capped limit (es ++ rest) = capped limit es ++ capped (limit.map (· - es.length)) rest := by
  cases limit with
  | none => rfl
  | some n => exact List.take_append

/-- A limit that is not below the number of events admits them all. -/
theorem capped_of_not_any (h : ¬limit.any (· < es.length)) : capped limit es = es := by
  cases limit with
  | none => rfl
  | some n =>
    rw [Option.any_some, decide_eq_true_eq, Nat.not_lt] at h
    exact List.take_of_length_le h

/-- A limit below the number of events admits nothing behind them. -/
theorem capped_append_of_any (h : limit.any (· < es.length)) :
    capped limit (es ++ rest) = capped limit es := by
  cases limit with
  | none => cases h
  | some n =>
    rw [Option.any_some, decide_eq_true_eq] at h
    exact List.take_append_of_le_length (Nat.le_of_lt h)

theorem capped_cons (limit : Option Nat) (e : CommittedEvent) (es : List CommittedEvent) :
    capped (limit.map (· + 1)) (e :: es) = e :: capped limit es := by
  cases limit with
  | none => rfl
  | some n => rfl

/-- What a limit admits are the first events. -/
theorem prefix_capped (limit : Option Nat) (es : List CommittedEvent) : capped limit es <+: es := by
  cases limit with
  | none => exact List.prefix_rfl
  | some n => exact List.take_prefix n es

end Capped

namespace EventLog.Coherent

variable {l : EventLog} (h : l.Coherent)

include h

/-- What a listing is about ascends. -/
theorem ascending_listed (start : Nat) (limit : Option Nat) :
    (l.listed start limit).Pairwise fun e e' => e.globalSequence < e'.globalSequence :=
  (h.ascending.filter _).sublist (prefix_capped limit _).sublist

end EventLog.Coherent

/-! ### Outputs -/

namespace Output

variable {o : Output}

/-- What has been written. -/
def text (o : Output) : String := String.join o.lines.reverse ++ o.pending

/-- The output works and is at the start of a line. -/
structure Clean (o : Output) : Prop where
  works : o.broken = none
  complete : o.pending = ""

/-- The output after some more events, one to a line. -/
def withLines (o : Output) (es : List CommittedEvent) : Output :=
  { o with lines := (es.map fun e => e.line ++ "\n").reverse ++ o.lines }

theorem withLines_withLines (o : Output) (es es' : List CommittedEvent) :
    (o.withLines es).withLines es' = o.withLines (es ++ es') := by
  rw [withLines, withLines, withLines, List.map_append, List.reverse_append, List.append_assoc]

theorem Clean.withLines (h : o.Clean) (es : List CommittedEvent) : (o.withLines es).Clean :=
  ⟨h.works, h.complete⟩

/-- An output that works does what it is asked. -/
theorem attempt_eq (h : o.broken = none) (part : OutputPart) (after : Output) :
    o.attempt part after = (.ok (), after) := by
  rw [attempt, h, if_neg nofun]

/-- A text and a line end make a line. -/
theorem Clean.endLine_eq (h : o.Clean) (e : CommittedEvent) :
    endLine { o with pending := o.pending ++ e.line } = (.ok (), o.withLines [e]) := by
  obtain ⟨lines, pending, broken⟩ := o
  obtain ⟨rfl, rfl⟩ := h
  rw [endLine, attempt_eq rfl, String.empty_append]
  rfl

/-- What is written to an empty output are the lines. -/
theorem text_withLines_empty (es : List CommittedEvent) :
    (withLines {} es).text = linesOf es := by
  rw [text, withLines, List.append_nil, List.reverse_reverse]
  exact String.append_empty

end Output

/-! ### Lines -/

theorem linesOf_append (es es' : List CommittedEvent) :
    linesOf (es ++ es') = linesOf es ++ linesOf es' := by
  rw [linesOf, List.map_append, String.join_append]
  rfl

theorem linesOf_cons (e : CommittedEvent) (es : List CommittedEvent) :
    (linesOf (e :: es)).toList = e.line.toList ++ '\n' :: (linesOf es).toList := by
  rw [linesOf, List.map_cons, String.join_cons, String.toList_append, String.toList_append,
    List.append_assoc]
  rfl

/-- **The lines are told apart again**, whatever texts the events hold. -/
theorem split_linesOf (es : List CommittedEvent) :
    ((linesOf es).split '\n').toList.map (·.copy) = es.map (·.line) ++ [""] := by
  rw [String.toList_split_char]
  induction es with
  | nil => rfl
  | cons e es ih =>
    rw [linesOf_cons, List.splitOn_append_cons_self_of_not_mem e.oneLine_line, List.map_cons, ih,
      String.ofList_toList]
    rfl

/-- The first events are a beginning of the lines. -/
theorem prefix_linesOf_take (es : List CommittedEvent) (k : Nat) :
    (linesOf (es.take k)).toList <+: (linesOf es).toList := by
  have hparts : linesOf es = linesOf (es.take k) ++ linesOf (es.drop k) := by
    rw [← linesOf_append, List.take_append_drop]
  rw [hparts, String.toList_append]
  exact List.prefix_append _ _

/-- The lines are empty or end with a line end. -/
theorem linesOf_cases (es : List CommittedEvent) :
    linesOf es = "" ∨ ∃ s, linesOf es = s ++ "\n" := by
  rcases es.eq_nil_or_concat with rfl | ⟨es, e, rfl⟩
  · exact .inl rfl
  · refine .inr ⟨linesOf es ++ e.line, ?_⟩
    rw [List.concat_eq_append, linesOf_append, String.append_assoc]
    exact congrArg (linesOf es ++ ·) String.empty_append

/-! ### Runs -/

namespace AdminCall

variable {calm : Prop} {m : MemoryStorage} {o : Output} {w' : MemoryStorage × Output}
  {limit : Option Nat}

/-- How a part of a listing ends that has to write the events `es` after `written` lines: it has
written them, or, unless the run is calm, it has failed after the first of them. -/
inductive Written (calm : Prop) (m : MemoryStorage) (o : Output) (es : List CommittedEvent)
    (written : Nat) : Except AdminError Nat → MemoryStorage × Output → Prop
  | all : Written calm m o es written (.ok (written + es.length)) (m, o.withLines es)
  | cut (e : AdminError) (k : Nat) (hcalm : ¬calm) :
      Written calm m o es written (.error e) (m, o.withLines (es.take k))

/-- What is written before the rest. -/
theorem Written.append {es rest : List CommittedEvent} {written : Nat}
    {r : Except AdminError Nat}
    (h : Written calm m (o.withLines es) rest (written + es.length) r w') :
    Written calm m o (es ++ rest) written r w' := by
  cases h with
  | all =>
    rw [Output.withLines_withLines, Nat.add_assoc, ← List.length_append]
    exact .all
  | cut e k hcalm =>
    rw [Output.withLines_withLines, ← List.take_length_add_append]
    exact .cut e (es.length + k) hcalm

/-- An event is written as one line. -/
theorem eq_of_runsTo_writeLine (ho : o.Clean) {e : CommittedEvent} {r : Except AdminError Unit}
    (h : RunsTo (Serves calm) (writeLine e) (m, o) r w') :
    r = .ok () ∧ w' = (m, o.withLines [e]) := by
  obtain ⟨a, w₁, ha, h⟩ := RunsTo.of_ask_bind h
  cases ha with
  | answered =>
    dsimp only [answer, Output.write] at h
    rw [Output.attempt_eq ho.works] at h
    obtain ⟨a, w₂, ha, h⟩ := RunsTo.of_ask_bind h
    cases ha with
    | answered =>
      dsimp only [answer] at h
      rw [ho.endLine_eq] at h
      cases h
      exact ⟨rfl, rfl⟩

/-- What has been written is passed on at the end. -/
theorem eq_of_runsTo_flush (ho : o.Clean) {written : Nat} {r : Except AdminError Nat}
    (h : RunsTo (Serves calm) (flush.bind fun _ => .done written) (m, o) r w') :
    r = .ok written ∧ w' = (m, o) := by
  obtain ⟨a, w₁, ha, h⟩ := RunsTo.of_ask_bind h
  cases ha with
  | answered =>
    dsimp only [answer, Output.flush] at h
    rw [Output.attempt_eq ho.works] at h
    cases h
    exact ⟨rfl, rfl⟩

/-- **The events of a page are written up to the limit**, which may have been reached before. -/
theorem eq_of_runsTo_writeEvents (ho : o.Clean) {es : List CommittedEvent} {written : Nat}
    {r : Except AdminError (Nat × Bool)}
    (h : RunsTo (Serves calm) (writeEvents limit written es) (m, o) r w') :
    r = .ok (written + (capped (limit.map (· - written)) es).length,
      (limit.map (· - written)).any (· < es.length)) ∧
      w' = (m, o.withLines (capped (limit.map (· - written)) es)) := by
  induction es generalizing written o with
  | nil =>
    cases h
    cases limit with
    | none => exact ⟨rfl, rfl⟩
    | some n =>
      rw [Option.map_some, capped, Option.elim_some, List.take_nil]
      exact ⟨rfl, rfl⟩
  | cons e es ih =>
    rw [writeEvents] at h
    split at h
    next hfull =>
      cases h
      have hnone : limit.map (· - written) = some 0 := by
        cases limit with
        | none => cases hfull
        | some n =>
          rw [Option.any_some, decide_eq_true_eq] at hfull
          rw [Option.map_some, Nat.sub_eq_zero_of_le hfull]
      rw [hnone]
      exact ⟨rfl, rfl⟩
    next hroom =>
      have hleft : limit.map (· - written) = (limit.map (· - (written + 1))).map (· + 1) := by
        cases limit with
        | none => rfl
        | some n =>
          rw [Option.any_some, decide_eq_true_eq] at hroom
          rw [Option.map_some, Option.map_some, Option.map_some, Option.some_inj]
          omega
      have hany : ((limit.map (· - (written + 1))).map (· + 1)).any (· < (e :: es).length) =
          (limit.map (· - (written + 1))).any (· < es.length) := by
        cases limit with
        | none => rfl
        | some n => exact decide_eq_decide.2 Nat.succ_lt_succ_iff
      rw [hleft, hany, capped_cons]
      rcases RunsTo.of_bind h with ⟨⟨⟩, w₁, hline, h⟩ | ⟨e', hline, -⟩
      · obtain ⟨-, rfl⟩ := eq_of_runsTo_writeLine ho hline
        obtain ⟨rfl, rfl⟩ := ih (ho.withLines [e]) h
        rw [Output.withLines_withLines, List.length_cons, Nat.add_assoc, Nat.add_comm 1]
        exact ⟨rfl, rfl⟩
      · cases (eq_of_runsTo_writeLine ho hline).1

theorem tailFrom_eq (size : Nat) (limit : Option Nat) (start written : Nat) :
    tailFrom size limit start written = checkLive.bind fun _ =>
      (storage (.page start size)).bind fun (page : Page) =>
        if page.events.isEmpty then flush.bind fun _ => .done written
        else (writeEvents limit written page.events).bind fun p =>
          if p.2 then flush.bind fun _ => .done p.1
          else if start < page.next ∧ page.next ≤ greatestSequence then
            tailFrom size limit page.next p.1
          else .failed (.ledger .sequenceOverflow) := by
  rw [tailFrom]
  rfl

/-- A page is read, or, unless the run is calm, the listing fails before anything is done. -/
theorem cases_of_readPage {start size : Nat} {page : Page}
    (hpage : m.events.page start size = .ok page) {f : Page → AdminCall Nat}
    {r : Except AdminError Nat}
    (h : RunsTo (Serves calm) (checkLive.bind fun _ => (storage (.page start size)).bind f) (m, o)
      r w') :
    RunsTo (Serves calm) (f page) (m, o) r w' ∨ ¬calm ∧ w' = (m, o) ∧ ∃ e, r = .error e := by
  rcases RunsTo.of_bind h with ⟨⟨⟩, w₁, hcheck, h⟩ | ⟨e, hcheck, rfl⟩
  case inr =>
    obtain ⟨rfl, hok | ⟨hcalm, -⟩⟩ := cases_of_checkLive hcheck
    · cases hok
    · exact .inr ⟨hcalm, rfl, e, rfl⟩
  obtain ⟨rfl, -⟩ := cases_of_checkLive hcheck
  have hserve : m.serve (.page start size) = (.ok page, m) := congrArg (fun x => (x, m)) hpage
  rcases RunsTo.of_bind h with ⟨page', w₁, hread, h⟩ | ⟨e, hread, rfl⟩
  · rcases cases_of_storage hread with ⟨hok, rfl⟩ | ⟨-, -, e, herr⟩
    · rw [hserve] at hok h
      obtain rfl := Except.ok.inj hok
      exact .inl h
    · cases herr
  · rcases cases_of_storage hread with ⟨hok, -⟩ | ⟨hcalm, rfl, -⟩
    · rw [hserve] at hok
      cases hok
    · exact .inr ⟨hcalm, rfl, e, rfl⟩

/-- **The listing of what is left**, by induction on the numbers that are left. -/
theorem written_of_runsTo_tailFrom (hm : m.events.Coherent)
    (hlast : m.events.lastGlobal < greatestSequence) {size : Nat} (hsize : 0 < size)
    {start written : Nat} (ho : o.Clean) {r : Except AdminError Nat}
    (h : RunsTo (Serves calm) (tailFrom size limit start written) (m, o) r w') :
    Written calm m o (m.events.listed start (limit.map (· - written))) written r w' := by
  induction hn : greatestSequence - start using Nat.strong_induction_on
    generalizing start written o with
  | h n ih =>
    rw [tailFrom_eq] at h
    have hpage := hm.page_eq start (Nat.ne_of_gt hsize)
    have hcut := hm.cut_of_page hpage
    rcases cases_of_readPage hpage h with h | ⟨hcalm, rfl, e, rfl⟩
    case inr => exact .cut e 0 hcalm
    rw [EventLog.listed, hm.filter_eq_page_append start size]
    generalize (m.events.all.filter (start ≤ ·.globalSequence)).take size = pg at h hcut ⊢
    dsimp only at h
    split at h
    next hnil =>
      obtain rfl := List.isEmpty_iff.1 hnil
      have hover : m.events.all.filter (EventLog.nextOf [] start ≤ ·.globalSequence) = [] := by
        rw [List.filter_eq_nil_iff]
        intro e he
        rw [decide_eq_true_eq, Nat.not_le]
        exact hcut.ended rfl e he
      have hnone : capped (limit.map (· - written)) [] = [] :=
        List.prefix_nil.1 (prefix_capped _ [])
      rw [hover, List.append_nil, hnone]
      obtain ⟨rfl, rfl⟩ := eq_of_runsTo_flush ho h
      exact .all
    next hsome =>
      rcases RunsTo.of_bind h with ⟨p, w₁, hwrite, h⟩ | ⟨e, hwrite, -⟩
      case inr => cases (eq_of_runsTo_writeEvents ho hwrite).1
      obtain ⟨hp, rfl⟩ := eq_of_runsTo_writeEvents ho hwrite
      obtain rfl := Except.ok.inj hp
      dsimp only at h
      split at h
      next hfull =>
        rw [capped_append_of_any hfull]
        obtain ⟨rfl, rfl⟩ := eq_of_runsTo_flush (ho.withLines _) h
        exact .all
      next hroom =>
        obtain ⟨hlt, e, he, hnext⟩ := hcut.lt_next (mt List.isEmpty_iff.2 hsome)
        change start < EventLog.nextOf pg start at hlt
        have hle : EventLog.nextOf pg start ≤ greatestSequence :=
          hnext.trans_le (Nat.succ_le_of_lt ((hm.drawn e he).2.trans_lt hlast))
        rw [if_pos ⟨hlt, hle⟩, capped_of_not_any hroom] at h
        rw [capped_append, capped_of_not_any hroom]
        have hleft : (limit.map (· - written)).map (· - pg.length) =
            limit.map (· - (written + pg.length)) := by
          rw [Option.map_map]
          exact congrArg (limit.map ·) (funext fun n => Nat.sub_sub n written pg.length)
        rw [hleft]
        exact .append (ih _ (by omega) (ho.withLines pg) h rfl)

/-- A listing from an empty output. -/
theorem written_of_runsTo_tail (hm : m.events.Coherent)
    (hlast : m.events.lastGlobal < greatestSequence) {start size : Nat} (hsize : 0 < size)
    {r : Except AdminError Nat} (h : RunsTo (Serves calm) (tail start size limit) (m, {}) r w') :
    Written calm m {} (m.events.listed start limit) 0 r w' := by
  have hwhole : limit.map (· - 0) = limit := Option.map_id'
  have hclean : Output.Clean {} := ⟨rfl, rfl⟩
  exact hwhole ▸ written_of_runsTo_tailFrom hm hlast hsize hclean h

end AdminCall

namespace MemoryStorage

/-- What a listing of the stored events from a number on comes to. -/
structure Lists (m : MemoryStorage) (start : Nat) (limit : Option Nat) : Prop where
  /-- The events that it is about ascend. -/
  ascending : (m.events.listed start limit).Pairwise
    fun e e' => e.globalSequence < e'.globalSequence
  /-- A listing that nothing disturbs ends and yields their number; it has written them, one to a
  line, and the lines can be told apart. -/
  complete : ∀ size, 0 < size → ∃ o,
    AdminCall.runOver AdminCall.fromMemory false (tail start size limit) m {} =
        (.ok (m.events.listed start limit).length, m, o) ∧
      o.text = linesOf (m.events.listed start limit) ∧
      (o.text.split '\n').toList.map (·.copy) =
        (m.events.listed start limit).map (·.line) ++ [""]
  /-- The size of the pages does not matter. -/
  sizes : ∀ size size', 0 < size → 0 < size' →
    AdminCall.runOver AdminCall.fromMemory false (tail start size limit) m {} =
      AdminCall.runOver AdminCall.fromMemory false (tail start size' limit) m {}
  /-- If reads may fail and the caller may cancel, at any moment, then a listing that fails has
  written a beginning of this, which is empty or ends with a line end, and one that does not fail
  has written it all. -/
  stopped : ∀ size r m' o, 0 < size →
    RunsTo (AdminCall.Serves False) (tail start size limit) (m, {}) r (m', o) →
    m' = m ∧ (r = .ok (m.events.listed start limit).length ∧
        o.text = linesOf (m.events.listed start limit) ∨
      (∃ e, r = .error e) ∧ o.text.toList <+: (linesOf (m.events.listed start limit)).toList ∧
        (o.text = "" ∨ ∃ s, o.text = s ++ "\n"))

/-- **A listing writes the events that it is about, one to a line, whatever the size of its pages
is**, and one that fails has written the first of them.  The numbers that were given out leave one
more, since a listing looks for more behind the last event. -/
theorem lists_of_reachable {m : MemoryStorage} (hm : m.Reachable)
    (hlast : m.events.lastGlobal < greatestSequence) (start : Nat) (limit : Option Nat) :
    m.Lists start limit := by
  have h := hm.coherent
  have hrun : ∀ size, 0 < size →
      AdminCall.runOver AdminCall.fromMemory false (tail start size limit) m {} =
        (.ok (m.events.listed start limit).length, m,
          Output.withLines {} (m.events.listed start limit)) := by
    intro size hsize
    have hruns := RunsTo.of_runState (AdminCall.serves_answer True) (tail start size limit) (m, {})
    change RunsTo _ _ _ (AdminCall.runOver AdminCall.fromMemory false _ m {}).1
      (AdminCall.runOver AdminCall.fromMemory false _ m {}).2 at hruns
    have hwritten := AdminCall.written_of_runsTo_tail h hlast hsize hruns
    generalize AdminCall.runOver AdminCall.fromMemory false (tail start size limit) m {} = x
      at hwritten
    obtain ⟨r, w⟩ := x
    cases hwritten with
    | all => rw [Nat.zero_add]
    | cut e k hcalm => exact absurd trivial hcalm
  constructor
  case ascending => exact h.ascending_listed start limit
  case complete =>
    intro size hsize
    have htext := Output.text_withLines_empty (m.events.listed start limit)
    refine ⟨_, hrun size hsize, htext, ?_⟩
    rw [htext]
    exact split_linesOf _
  case sizes =>
    intro size size' hsize hsize'
    rw [hrun size hsize, hrun size' hsize']
  case stopped =>
    intro size r m' o hsize hruns
    cases AdminCall.written_of_runsTo_tail h hlast hsize hruns with
    | all => exact ⟨rfl, .inl ⟨by rw [Nat.zero_add], Output.text_withLines_empty _⟩⟩
    | cut e k =>
      rw [Output.text_withLines_empty]
      exact ⟨rfl, .inr ⟨⟨e, rfl⟩, prefix_linesOf_take _ k, linesOf_cases _⟩⟩

/-- A stream was deleted between the others, and the listing goes on behind the gap. -/
theorem lists_around_gap :
    (run {} (namesakes ++ [.delete namesakeKey])).Reachable ∧
      (run {} (namesakes ++ [.delete namesakeKey])).events.lastGlobal < greatestSequence ∧
      (AdminCall.runOver AdminCall.fromMemory false (tail 2 1 none)
        (run {} (namesakes ++ [.delete namesakeKey])) {}).1 = .ok 2 ∧
      ((run {} (namesakes ++ [.delete namesakeKey])).events.listed 2 none).map
        (·.globalSequence) = [2, 4] := by
  have hreach : (run {} (namesakes ++ [.delete namesakeKey])).Reachable := ⟨_, rfl⟩
  have hlast : (run {} (namesakes ++ [.delete namesakeKey])).events.lastGlobal <
      greatestSequence := by
    decide +kernel
  have hnumbers : ((run {} (namesakes ++ [.delete namesakeKey])).events.listed 2 none).map
      (·.globalSequence) = [2, 4] := by
    decide +kernel
  obtain ⟨o, hrun, -⟩ := (lists_of_reachable hreach hlast 2 none).complete 1 Nat.one_pos
  have hlength := congrArg List.length hnumbers
  rw [List.length_map] at hlength
  refine ⟨hreach, hlast, ?_, hnumbers⟩
  rw [hrun, hlength]
  rfl

end MemoryStorage

end EventLedger
