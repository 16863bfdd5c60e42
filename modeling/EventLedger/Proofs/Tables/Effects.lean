import EventLedger.Proofs.Tables.Session

/-!
# What statements do to the visible rows

Between two moments of a session either only the others have made rows visible, or a `COMMIT` of the
session has, and then all rows of its transaction at once.  A part of a call that sends no `COMMIT`
and deletes nothing is of the first kind.

## Main definitions

* `Session.Inv` — no two visible rows stand at one place, and each was made visible once.
* `Session.Stands w w'` — meanwhile the session has made no row visible.
* `Session.Shows w rows w'` — the session makes the rows visible.

## Main results

* `Session.Stands.inv`, `Session.Shows.inv` — both keep the invariant.
* `Session.Answers.cases_of_commit` — **a `COMMIT` makes all rows of the transaction visible, or
  none.**
* `Session.cases_of_run_bind`, `Session.cases_of_runInside_bind` — a statement is carried out before
  what follows, or it fails and leaves nothing.
* `Session.runsTo_send`, `Session.runsTo_run` — how a run is put together statement by statement.
-/

namespace EventLedger

open Call (RunsTo)

namespace Session

/-- No two visible rows stand at one place, and each was made visible once. -/
structure Inv (w : Session) : Prop where
  apart : Apart w.server.events
  split : w.server.events.Perm (w.foreign ++ w.own.flatten)

/-- From `w` to `w'` the session has made no row visible. -/
structure Stands (calm : Prop) (w w' : Session) : Prop where
  rows : ∃ new, w'.server.events = w.server.events ++ new ∧ w'.foreign = w.foreign ++ new ∧
    Server.Fits w.server.events (new.map (·.toEventDraft)) ∧ (calm → new = [])
  own : w'.own = w.own
  next : w.server.nextGlobal ≤ w'.server.nextGlobal

/-- The session makes the rows visible, all at once. -/
structure Shows (w : Session) (rows : List EventRow) (w' : Session) : Prop where
  fits : Server.Fits w.server.events (rows.map (·.toEventDraft))
  events : w'.server.events = w.server.events ++ rows
  own : w'.own = w.own ++ [rows]
  foreign : w'.foreign = w.foreign
  next : w'.server.nextGlobal = w.server.nextGlobal

variable {calm : Prop} {w w₁ w₂ w' : Session} {q : Statement} {rows : List EventRow}
  {f : DatabaseFailure}

theorem Stands.of_events_eq (hevents : w'.server.events = w.server.events)
    (hforeign : w'.foreign = w.foreign) (hown : w'.own = w.own)
    (hnext : w.server.nextGlobal ≤ w'.server.nextGlobal) : Stands calm w w' where
  rows := by
    refine ⟨[], ?_, ?_, ⟨?_, .nil⟩, fun _ => rfl⟩
    · rw [hevents, List.append_nil]
    · rw [hforeign, List.append_nil]
    · intro d hd
      cases hd
  own := hown
  next := hnext

theorem Stands.trans (h : Stands calm w w₁) (h' : Stands calm w₁ w') : Stands calm w w' := by
  obtain ⟨new, hevents, hforeign, hfits, hcalm⟩ := h.rows
  obtain ⟨new', hevents', hforeign', hfits', hcalm'⟩ := h'.rows
  refine ⟨⟨new ++ new', ?_, ?_, ⟨?_, ?_⟩, ?_⟩, h'.own.trans h.own, Int.le_trans h.next h'.next⟩
  · rw [hevents', hevents, List.append_assoc]
  · rw [hforeign', hforeign, List.append_assoc]
  · intro d hd r hr
    rw [List.map_append, List.mem_append] at hd
    rcases hd with hd | hd
    · exact hfits.free d hd r hr
    · exact hfits'.free d hd r (hevents ▸ List.mem_append_left new hr)
  · rw [List.map_append]
    refine List.pairwise_append.2 ⟨hfits.apart, hfits'.apart, ?_⟩
    intro d hd e he
    obtain ⟨r, hr, rfl⟩ := List.mem_map.1 hd
    rw [EventDraft.collides_comm]
    exact hfits'.free e he r (hevents ▸ List.mem_append_right _ hr)
  · intro hc
    rw [hcalm hc, hcalm' hc, List.append_nil]

theorem Stands.exists_append (h : Stands calm w w') :
    ∃ new, w'.server.events = w.server.events ++ new := by
  obtain ⟨new, hevents, -⟩ := h.rows
  exact ⟨new, hevents⟩

/-- In a calm session the table is as before. -/
theorem Stands.events_eq (h : Stands calm w w') (hcalm : calm) :
    w'.server.events = w.server.events := by
  obtain ⟨new, hevents, -, -, hnew⟩ := h.rows
  rw [hevents, hnew hcalm, List.append_nil]

theorem Stands.inv (h : Stands calm w w') (hw : w.Inv) : w'.Inv := by
  obtain ⟨new, hevents, hforeign, hfits, -⟩ := h.rows
  constructor
  · rw [hevents]
    exact hfits.apart_append hw.apart
  · rw [hevents, hforeign, h.own, List.append_assoc]
    refine (hw.split.append_right new).trans ?_
    rw [List.append_assoc]
    exact List.perm_append_comm.append_left w.foreign

/-- Making rows visible keeps each at a place of its own. -/
theorem Shows.inv (h : Shows w rows w') (hw : w.Inv) : w'.Inv := by
  constructor
  · rw [h.events]
    exact h.fits.apart_append hw.apart
  · rw [h.events, h.own, h.foreign, List.flatten_append, List.flatten_singleton,
      ← List.append_assoc]
    exact hw.split.append_right rows

/-! ### Statements -/

theorem Moves.stands (h : Moves calm w w') : Stands calm w w' := by
  obtain ⟨new, hevents, hforeign, hfits⟩ := h.rows
  refine ⟨⟨new, hevents, hforeign, hfits.left, ?_⟩, h.own, h.next⟩
  intro hcalm
  rw [h.rests hcalm] at hevents
  exact List.self_eq_append_right.1 hevents

/-- A statement that is no `COMMIT` shows only what it does to the table itself. -/
theorem stands_after {s : Server} (hcommit : q ≠ .commit) (hevents : s.events = w.server.events)
    (hnext : w.server.nextGlobal ≤ s.nextGlobal) : Stands calm w (w.after q s) := by
  refine .of_events_eq hevents rfl ?_ hnext
  cases q <;> first | exact absurd rfl hcommit | exact List.append_nil _

/-- A statement that neither commits nor deletes makes no row visible. -/
theorem Answers.stands {a : q.Answer} (h : w.Answers calm q a w') (hcommit : q ≠ .commit)
    (hdelete : ∀ key, q ≠ .deleteEvents key) : Stands calm w w' := by
  cases h with
  | executed h hw =>
    obtain ⟨hevents, hnext⟩ := h.stands hcommit hdelete
    subst hw
    exact stands_after hcommit hevents hnext
  | failed _ _ hevents hnext hw =>
    subst hw
    exact .of_events_eq hevents rfl rfl hnext
  | lost _ _ hq _ => exact absurd hq hcommit

/-- A statement that inserts no rows is carried out, or it fails. -/
theorem Answers.performed {a : q.Answer} (h : w.Answers calm q a w')
    (hinsert : ∀ ds, q ≠ .insertEvents ds) :
    a = (w.server.perform 0 q).1 ∧ w' = w.after q (w.server.perform 0 q).2 ∨
      ¬calm ∧ ∃ f, a = .error f := by
  cases h with
  | executed h hw =>
    rw [h.perform_eq hinsert]
    exact .inl ⟨rfl, hw⟩
  | failed hcalm ha _ _ _ => exact .inr ⟨hcalm, _, ha⟩
  | lost hcalm ha _ _ => exact .inr ⟨hcalm, _, ha⟩

/-- **A `COMMIT` makes all rows of the transaction visible, or none**; if it succeeds, it does. -/
theorem Answers.cases_of_commit {a : Statement.commit.Answer} (h : w.Answers calm .commit a w')
    (hfits : Server.Fits w.server.events (w.pending.map (·.toEventDraft))) :
    w.Shows w.pending w' ∧ (a = .ok () ∨ ¬calm ∧ ∃ f, a = .error f) ∨
      Stands calm w w' ∧ ¬calm ∧ ∃ f, a = .error f := by
  cases h with
  | executed h hw =>
    cases h
    subst hw
    exact .inl ⟨⟨hfits, rfl, rfl, rfl, rfl⟩, .inl rfl⟩
  | failed hcalm ha hevents hnext hw =>
    subst hw
    exact .inr ⟨.of_events_eq hevents rfl rfl hnext, hcalm, _, ha⟩
  | lost hcalm ha _ hw =>
    subst hw
    exact .inl ⟨⟨hfits, rfl, rfl, rfl, rfl⟩, .inr ⟨hcalm, _, ha⟩⟩

/-! ### Calls that send statements -/

section Calls

variable {α : Type} {r : Except TableError α}

/-- A statement is sent and answered, and what follows. -/
theorem of_send_bind {c : q.Answer → TableCall α}
    (h : RunsTo (Goes calm) ((TableStorage.send q).bind c) w r w') :
    ∃ a w₁ w₂, Moves calm w w₁ ∧ w₁.Answers calm q a w₂ ∧ RunsTo (Goes calm) (c a) w₂ r w' := by
  rcases h.of_bind with ⟨a, w₂, hsend, hrest⟩ | ⟨e, hsend, -⟩
  · obtain ⟨a', heq, w₁, hmoves, ha⟩ := hsend.of_ask
    obtain rfl := Except.ok.inj heq
    exact ⟨a, w₁, w₂, hmoves, ha, hrest⟩
  · obtain ⟨a', heq, -⟩ := hsend.of_ask
    cases heq

/-- A statement that inserts no rows and is no `COMMIT` is carried out before what follows, or it
fails without a visible effect. -/
theorem cases_of_run_bind {c : q.Result → TableCall α} (hinsert : ∀ ds, q ≠ .insertEvents ds)
    (hcommit : q ≠ .commit) (hok : ∀ s : Server, ∃ x, (s.perform 0 q).1 = .ok x)
    (h : RunsTo (Goes calm) ((TableStorage.run q).bind c) w r w') :
    (∃ w₁ x, Moves calm w w₁ ∧ (w₁.server.perform 0 q).1 = .ok x ∧
        RunsTo (Goes calm) (c x) (w₁.after q (w₁.server.perform 0 q).2) r w') ∨
      ¬calm ∧ Stands calm w w' ∧ ∃ f, r = .error (.database f) := by
  rw [TableStorage.run] at h
  change RunsTo _ (((TableStorage.send q).bind _).bind c) _ _ _ at h
  rw [Call.bind_assoc] at h
  obtain ⟨a, w₁, w₂, hmoves, ha, hrest⟩ := of_send_bind h
  cases ha with
  | executed h hw =>
    have hperform := h.perform_eq hinsert
    obtain ⟨x, hx⟩ := hok w₁.server
    rw [hperform] at hx
    subst hx hw
    refine .inl ⟨w₁, x, hmoves, congrArg Prod.fst hperform, ?_⟩
    rw [hperform]
    exact hrest
  | failed hcalm ha hevents hnext hw =>
    subst ha hw
    cases hrest
    exact .inr ⟨hcalm, hmoves.stands.trans (.of_events_eq hevents rfl rfl hnext), _, rfl⟩
  | lost _ _ hq _ => exact absurd hq hcommit

/-- Giving a transaction up makes nothing visible. -/
theorem stands_of_giveUp (h : RunsTo (Goes calm) (TableStorage.giveUp f) w r w') :
    Stands calm w w' ∧ r = .error (.database f) := by
  obtain ⟨a, w₁, w₂, hmoves, ha, hrest⟩ := of_send_bind h
  cases hrest
  exact ⟨hmoves.stands.trans (ha.stands (by simp) (by simp)), rfl⟩

/-- A statement inside a transaction succeeds, or the transaction is given up. -/
theorem cases_of_runInside_bind {c : q.Result → TableCall α}
    (h : RunsTo (Goes calm) ((TableStorage.runInside q).bind c) w r w') :
    ∃ w₁ w₂, Moves calm w w₁ ∧
      ((∃ x, w₁.Answers calm q (.ok x) w₂ ∧ RunsTo (Goes calm) (c x) w₂ r w') ∨
        ∃ f, w₁.Answers calm q (.error f) w₂ ∧ Stands calm w₂ w' ∧ r = .error (.database f)) := by
  rw [TableStorage.runInside] at h
  change RunsTo _ (((TableStorage.send q).bind _).bind c) _ _ _ at h
  rw [Call.bind_assoc] at h
  obtain ⟨a, w₁, w₂, hmoves, ha, hrest⟩ := of_send_bind h
  refine ⟨w₁, w₂, hmoves, ?_⟩
  cases a with
  | ok x => exact .inl ⟨x, ha, hrest⟩
  | error f =>
    rcases RunsTo.of_bind hrest with ⟨x, w₃, hgone, -⟩ | ⟨e, hgone, rfl⟩
    · obtain ⟨-, hr⟩ := stands_of_giveUp hgone
      cases hr
    · obtain ⟨hstands, hr⟩ := stands_of_giveUp hgone
      exact .inr ⟨f, ha, hstands, congrArg Except.error (Except.error.inj hr)⟩

end Calls

/-! ### Runs statement by statement -/

section Runs

variable {α : Type} {r : Except TableError α}

/-- A statement that is answered, and what follows. -/
theorem runsTo_send {a : q.Answer} {c : q.Answer → TableCall α} (ha : w.Answers calm q a w₁)
    (hrest : RunsTo (Goes calm) (c a) w₁ r w') :
    RunsTo (Goes calm) ((TableStorage.send q).bind c) w r w' := by
  have hgoes : Goes calm w (.inner q) a w₁ := ⟨w, .refl w, ha⟩
  exact .waiting hgoes hrest

/-- A statement that is carried out, and what follows. -/
theorem runsTo_run {x : q.Result} {s' : Server} {c : q.Result → TableCall α}
    (hx : w.server.Executes 0 q (.ok x) s') (hrest : RunsTo (Goes calm) (c x) (w.after q s') r w') :
    RunsTo (Goes calm) ((TableStorage.run q).bind c) w r w' := by
  have hgoes : Goes calm w (.inner q) (.ok x) (w.after q s') := ⟨w, .refl w, .executed hx rfl⟩
  exact .waiting hgoes hrest

theorem runsTo_runInside {x : q.Result} {s' : Server} {c : q.Result → TableCall α}
    (hx : w.server.Executes 0 q (.ok x) s') (hrest : RunsTo (Goes calm) (c x) (w.after q s') r w') :
    RunsTo (Goes calm) ((TableStorage.runInside q).bind c) w r w' := by
  have hgoes : Goes calm w (.inner q) (.ok x) (w.after q s') := ⟨w, .refl w, .executed hx rfl⟩
  exact .waiting hgoes hrest

end Runs

end Session

end EventLedger
