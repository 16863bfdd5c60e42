import EventLedger.Proofs.Requests
import EventLedger.Proofs.Upkeep.Depot

/-!
# Updates and purges among others

What one call does to the storage and its diary, whatever the others do between its requests.  An
update brings a snapshot only after a commit of its own, under the number that this commit reached,
and it deletes nothing.  A purge that succeeds has deleted the snapshots after the events.

## Main definitions

* `Depot.Rely` — what the others may do.
* `Depot.clientDiscipline`, `Depot.purgeDiscipline` — what a call of a store may ask, and what one of
  maintenance may ask.
* `Depot.Behaves` — a part of a call that behaves as a call of a store may.

## Main results

* `Depot.behaves_update` — **an update brings snapshots only of what it has committed.**
* `Depot.keeps_purge` — **a purge that succeeds has deleted the snapshots after the events.**
-/

namespace EventLedger

open Call (Asks Keeps)

variable {σ ε α β : Type}

namespace Depot

/-- What the others may do: they write their own deeds into the diary. -/
def Rely (i : Nat) (w w' : Depot) : Prop :=
  ∃ new, w'.deeds = new ++ w.deeds ∧ ∀ d ∈ new, d.1 ≠ i

/-- What a store may ask: it deletes no events, and the snapshots that it brings are of what it has
committed. -/
def MayAsk (i : Nat) (w : Depot) : StoreRequest σ ε → Prop
  | .storage (.storeSnapshot x) => (i, .commit x.key x.sequence) ∈ w.deeds
  | .storage (.delete _) => False
  | _ => True

/-- What a maintenance command may ask: it brings no snapshots. -/
def MayAttend : AdminRequest → Prop
  | .storage (.storeSnapshot _) => False
  | _ => True

variable {w w' w'' : Depot} {s : AggregateStore σ ε} {i j : Nat}

theorem Rely.refl (i : Nat) (w : Depot) : Rely i w w :=
  ⟨[], rfl, by
    intro d hd
    cases hd⟩

theorem Rely.trans (h : Rely i w w') (h' : Rely i w' w'') : Rely i w w'' := by
  obtain ⟨new, hnew, hothers⟩ := h
  obtain ⟨new', hnew', hothers'⟩ := h'
  refine ⟨new' ++ new, by rw [hnew', hnew, List.append_assoc], ?_⟩
  intro d hd
  rcases List.mem_append.1 hd with hd | hd
  · exact hothers' d hd
  · exact hothers d hd

/-- A deed stays in the diary. -/
theorem Rely.mem (h : Rely i w w') {d : Nat × Deed} (hd : d ∈ w.deeds) : d ∈ w'.deeds := by
  obtain ⟨new, hnew, -⟩ := h
  rw [hnew]
  exact List.mem_append_right new hd

/-- The others write no deeds of the call. -/
theorem Rely.of_mem (h : Rely i w w') {d : Deed} (hd : (i, d) ∈ w'.deeds) : (i, d) ∈ w.deeds := by
  obtain ⟨new, hnew, hothers⟩ := h
  rw [hnew] at hd
  rcases List.mem_append.1 hd with hd | hd
  · exact absurd rfl (hothers _ hd)
  · exact hd

/-- What a call does, the others may rely on. -/
theorem rely_serve (w : Depot) (q : StorageRequest) (hij : i ≠ j) : Rely j w (w.serve i q).2 := by
  refine ⟨_, deeds_of_serve rfl, ?_⟩
  intro d hd
  obtain ⟨_, -, rfl⟩ := Option.map_eq_some_iff.1 (Option.mem_toList.1 hd)
  exact hij

theorem Answers.rely {q : StoreRequest σ ε} {a : q.Answer} (h : w.Answers s i q a w')
    (hij : i ≠ j) : Rely j w w' := by
  rcases h.eq_or_serve with rfl | ⟨p, -, rfl⟩
  · exact .refl j w'
  · exact w.rely_serve p hij

theorem Attends.rely {q : AdminRequest} {a : q.Answer} (h : w.Attends i q a w') (hij : i ≠ j) :
    Rely j w w' := by
  rcases h.eq_or_serve with rfl | ⟨p, -, rfl⟩
  · exact .refl j w'
  · exact w.rely_serve p hij

/-- A deed stays in the diary. -/
theorem Answers.mem {q : StoreRequest σ ε} {a : q.Answer} (h : w.Answers s i q a w')
    {d : Nat × Deed} (hd : d ∈ w.deeds) : d ∈ w'.deeds := by
  rcases h.eq_or_serve with rfl | ⟨p, -, rfl⟩
  · exact hd
  · exact List.mem_append_right _ hd

/-- What the others do changes nothing of what a call has deleted. -/
theorem Swept.of_rely (h : w.Swept i) (hr : Rely i w w') : w'.Swept i := by
  intro key newer older hsplit
  obtain ⟨new, hnew, hothers⟩ := hr
  rw [hnew] at hsplit
  rcases List.append_eq_append_iff.1 hsplit with ⟨mid, rfl, hold⟩ | ⟨mid, rfl, hold⟩
  · exact List.mem_append_right new (h key mid older hold)
  · cases mid with
    | nil => cases h key [] older hold.symm
    | cons d mid =>
      obtain ⟨rfl, -⟩ := List.cons.inj hold
      exact absurd rfl (hothers _ (List.mem_append_right newer List.mem_cons_self))

/-- What a store may ask deletes no events. -/
theorem Answers.of_mem_deleteEvents {q : StoreRequest σ ε} {a : q.Answer} {key : StreamKey}
    (h : w.Answers s i q a w') (hq : MayAsk i w q) (hd : (i, .deleteEvents key) ∈ w'.deeds) :
    (i, .deleteEvents key) ∈ w.deeds := by
  rcases h.eq_or_serve with rfl | ⟨p, rfl, rfl⟩
  · exact hd
  rcases List.mem_append.1 hd with hd | hd
  · obtain ⟨d, hdeed, heq⟩ := Option.map_eq_some_iff.1 (Option.mem_toList.1 hd)
    obtain ⟨-, rfl⟩ := Prod.mk.inj heq
    obtain rfl := Deed.eq_delete_of_of? hdeed
    exact hq.elim
  · exact hd

/-- What a store may ask keeps the diary in order. -/
theorem Inv.answers (h : w.Inv) {q : StoreRequest σ ε} {a : q.Answer} (hq : MayAsk i w q)
    (ha : w.Answers s i q a w') : w'.Inv := by
  rcases ha.eq_or_serve with rfl | ⟨p, rfl, rfl⟩
  · exact h
  · refine h.serve ?_
    rintro x rfl
    exact hq

/-- What a maintenance command may ask keeps the diary in order. -/
theorem Inv.attends (h : w.Inv) {q : AdminRequest} {a : q.Answer} (hq : MayAttend q)
    (ha : w.Attends i q a w') : w'.Inv := by
  rcases ha.eq_or_serve with rfl | ⟨p, rfl, rfl⟩
  · exact h
  · refine h.serve ?_
    rintro x rfl
    exact hq.elim

/-- How a call of a store behaves among the others. -/
def clientDiscipline (s : AggregateStore σ ε) (i : Nat) :
    Discipline (storeInterface σ ε) Depot where
  serves := Answers s i
  inv := Inv
  rely := Rely i
  asks := MayAsk i
  rely_trans := Rely.trans
  keeps_inv hw hq ha := hw.answers hq ha

/-- How a purge behaves among the others. -/
def purgeDiscipline (j : Nat) : Discipline adminInterface Depot where
  serves := Attends j
  inv := Inv
  rely := Rely j
  asks _ := MayAttend
  rely_trans := Rely.trans
  keeps_inv hw hq ha := hw.attends hq ha

/-! ### Calls of a store -/

/-- A part of a call that behaves as a call of a store may. -/
abbrev Behaves (s : AggregateStore σ ε) (i : Nat) (c : StoreCall σ ε α) (w : Depot) : Prop :=
  Keeps (clientDiscipline s i) (fun _ _ => True) c w

theorem mayAsk_of_isIdle {q : StoreRequest σ ε} (h : q.IsIdle) : MayAsk i w q := by
  cases q with
  | storage q =>
    cases q with
    | delete => exact h.elim
    | storeSnapshot => exact h.elim
    | _ => trivial
  | _ => trivial

theorem behaves_ask {q : StoreRequest σ ε} (hq : q.IsIdle) (w : Depot) :
    Behaves s i (StoreCall.ask q) w :=
  fun _ _ _ => ⟨mayAsk_of_isIdle hq, fun _ _ _ => trivial⟩

theorem behaves_of_asks {c : StoreCall σ ε α} (h : Asks StoreRequest.IsIdle c) (w : Depot) :
    Behaves s i c w :=
  h.keeps mayAsk_of_isIdle w

theorem behaves_of_reading {c : StoreCall σ ε α} (h : Asks StoreRequest.IsReading c) (w : Depot) :
    Behaves s i c w :=
  behaves_of_asks (h.imp fun _ => StoreRequest.IsReading.isIdle) w

theorem behaves_of_looking {c : StoreCall σ ε α} (h : Asks StoreRequest.IsLooking c) (w : Depot) :
    Behaves s i c w :=
  behaves_of_reading (h.imp fun _ => StoreRequest.IsLooking.isReading) w

theorem Behaves.bind {c : StoreCall σ ε α} {f : α → StoreCall σ ε β} (hc : Behaves s i c w)
    (hw : w.Inv) (hf : ∀ w a, w.Inv → Behaves s i (f a) w) : Behaves s i (c.bind f) w :=
  Keeps.bind hw hc (fun w a hw _ => hf w a hw) fun _ _ _ _ => trivial

/-- A snapshot is offered only of what was committed. -/
theorem behaves_offerSnapshot {root : Root σ ε} {version last : Nat} (hw : w.Inv)
    (hmem : (i, .commit (s.keyOf root.id) version) ∈ w.deeds) :
    Behaves s i (s.offerSnapshot root version last) w := by
  let P : StoreRequest σ ε → Prop := fun q => q.IsIdle ∨
    ∃ x, q = .storage (.storeSnapshot x) ∧ x.key = s.keyOf root.id ∧ x.sequence = version
  have hasks : Asks P (s.offerSnapshot root version last) :=
    AggregateStore.asks_offerSnapshot (.inl trivial) (.inl trivial)
      fun x hkey hseq => .inr ⟨x, rfl, hkey, hseq⟩
  refine Keeps.imp (fun _ _ _ _ => trivial) hw (hasks.keeps_of_stable
    (J := fun w => (i, .commit (s.keyOf root.id) version) ∈ w.deeds) ?_
    (fun hr => hr.mem) (fun _ ha => ha.mem) hmem)
  rintro w q hmem (hidle | ⟨x, rfl, hkey, hseq⟩)
  · exact mayAsk_of_isIdle hidle
  · change (i, .commit x.key x.sequence) ∈ w.deeds
    rwa [hkey, hseq]

/-- A commit that is accepted is put down in the diary. -/
theorem keeps_commit {key : StreamKey} {b : Uuid} {ps : List PendingEvent} :
    Keeps (clientDiscipline s i) (fun w r => ∀ stored, r = .ok stored → ∀ n,
      (i, .commit key ((stored.getLast?.map (·.sequence)).getD n)) ∈ w.deeds)
      (StoreCall.storage (.commit key b ps) : StoreCall σ ε (List CommittedEvent)) w := by
  intro w₁ _ hw₁
  refine ⟨trivial, ?_⟩
  intro a w₂ ha
  cases a with
  | error e =>
    intro stored h
    cases h
  | ok stored =>
    rintro _ ⟨⟩ n
    have hserve : w₁.serve i (.commit key b ps) = (.ok stored, w₂) := ha
    have hok := congrArg Prod.fst hserve
    rw [serve, MemoryStorage.answer_commit] at hok
    have hlast := List.getLast?_eq_some_getLast (hw₁.coherent.stored_ne_nil hok)
    rw [deeds_of_serve hserve, Deed.of?, hlast]
    exact List.mem_cons_self

theorem behaves_commitRoot {id : AggregateId} {source : Option String} {stream : LoadedStream ε}
    {root : Root σ ε} (hw : w.Inv) (hid : root.id = id) :
    Behaves s i (s.commitRoot id source stream root) w := by
  -- the snapshot is of the aggregate that was committed to
  subst hid
  unfold AggregateStore.commitRoot
  refine (behaves_ask (q := .freshId) trivial w).bind hw fun w₁ batchId hw₁ => ?_
  refine (behaves_ask (q := .now) trivial w₁).bind hw₁ fun w₂ now hw₂ => ?_
  refine (behaves_of_asks (AggregateStore.asks_pendingEvents trivial _ _ _ _ _ _) w₂).bind hw₂
    fun w₃ events hw₃ => ?_
  refine (behaves_of_looking AggregateStore.asks_checkLive w₃).bind hw₃ fun w₄ _ hw₄ => ?_
  refine keeps_commit.bind hw₄ (fun w₅ stored hw₅ hmem => ?_) fun _ _ _ _ => trivial
  -- the deed is still there when the cache has been invalidated
  have hinvalidate : Keeps (clientDiscipline s i)
      (fun w _ => (i, .commit (s.keyOf root.id)
        ((stored.getLast?.map (·.sequence)).getD root.version)) ∈ w.deeds)
      (s.invalidate root.id) w₅ :=
    (AggregateStore.asks_invalidate (P := StoreRequest.IsIdle) trivial).keeps_of_stable
      (fun _ => mayAsk_of_isIdle) (fun hr => hr.mem) (fun _ ha => ha.mem) (hmem stored rfl _)
  refine hinvalidate.bind hw₅ (fun w₆ _ hw₆ hmem => ?_) fun _ _ _ _ => trivial
  exact (behaves_offerSnapshot hw₆ hmem).bind hw₆ fun _ _ _ => trivial

theorem behaves_attempt {id : AggregateId} {source : Option String} (hw : w.Inv) :
    Behaves s i (s.attempt id source) w := by
  unfold AggregateStore.attempt
  have hload : Behaves s i (s.loadRoot id) w :=
    behaves_of_reading (AggregateStore.asks_loadRoot id) w
  refine Keeps.bind hw ((AggregateStore.ends_loadRoot id).keeps_and hload) ?_ fun _ _ _ _ => trivial
  rintro w₁ ⟨root, stream⟩ hw₁ ⟨-, hfresh⟩
  refine (behaves_of_looking (AggregateStore.asks_redelivered id stream source) w₁).bind hw₁ ?_
  intro w₂ found hw₂
  cases found with
  | some batch => trivial
  | none =>
    intro w₃ _ hw₃
    refine ⟨trivial, ?_⟩
    rintro decision w₄ ⟨hsame, rfl⟩
    cases decision with
    | error e => trivial
    | ok decided =>
      have hid : decided.id = id := (hsame decided rfl).trans (hfresh root stream rfl).id
      change Behaves s i (if decided.uncommitted.isEmpty then _ else _) _
      split
      · trivial
      · exact behaves_commitRoot hw₃ hid

theorem behaves_attempts {id : AggregateId} {source : Option String} {retries done : Nat}
    (hw : w.Inv) : Behaves s i (s.attempts id source retries done) w := by
  have hinvalidate : ∀ w, Behaves s i (s.invalidate id) w := fun w =>
    behaves_of_asks (AggregateStore.asks_invalidate trivial) w
  induction retries generalizing done w with
  | zero =>
    unfold AggregateStore.attempts
    refine Keeps.outcome_bind hw (behaves_attempt hw) ?_
    intro w₁ r hw₁ _
    cases r with
    | ok committed => trivial
    | error e =>
      dsimp only
      split
      · exact (hinvalidate w₁).bind hw₁ fun _ _ _ => trivial
      · trivial
  | succ retries ih =>
    unfold AggregateStore.attempts
    refine Keeps.outcome_bind hw (behaves_attempt hw) ?_
    intro w₁ r hw₁ _
    cases r with
    | ok committed => trivial
    | error e =>
      dsimp only
      split
      · refine (hinvalidate w₁).bind hw₁ fun w₂ _ hw₂ => ?_
        exact (behaves_of_asks (AggregateStore.asks_pause trivial) w₂).bind hw₂ fun _ _ => ih
      · trivial

/-- **An update brings snapshots only of what it has committed.** -/
theorem behaves_update {id : AggregateId} {source : Option String} (hw : w.Inv) :
    Behaves s i (s.update id source) w :=
  behaves_attempts hw

/-! ### Purges -/

/-- **A purge that succeeds has deleted the snapshots after the events**, if it begins now. -/
theorem keeps_purge (hnew : ∀ d ∈ w.deeds, d.1 ≠ j) (name id : String) :
    Keeps (purgeDiscipline j) (fun w r => ∀ n, r = .ok n → w.Swept j) (purge name id) w := by
  unfold purge
  cases AggregateId.parse id with
  | error e =>
    intro n h
    cases h
  | ok id =>
    intro w₁ hr₁ _
    refine ⟨trivial, ?_⟩
    intro deleted w₂ h₂
    cases deleted with
    | error e =>
      intro n h
      cases h
    | ok count =>
      intro w₃ hr₃ _
      refine ⟨trivial, ?_⟩
      intro removed w₄ h₄
      cases removed with
      | error e =>
        intro n h
        cases h
      | ok u =>
        have hfirst : w₂.deeds = (j, .deleteEvents ⟨name, id⟩) :: w₁.deeds := deeds_of_serve h₂
        have hsecond : w₄.deeds = (j, .deleteSnapshots ⟨name, id⟩) :: w₃.deeds :=
          deeds_of_serve h₄
        -- the purge has deleted events once
        have honce : ∀ key, (j, .deleteEvents key) ∈ w₃.deeds → key = ⟨name, id⟩ := by
          intro key hmem
          have hmem := hr₃.of_mem hmem
          rw [hfirst] at hmem
          rcases List.mem_cons.1 hmem with heq | hmem
          · exact Deed.deleteEvents.inj (Prod.mk.inj heq).2
          · exact absurd rfl (hnew _ (hr₁.of_mem hmem))
        intro _ _ key newer older hsplit
        rw [hsecond] at hsplit
        cases newer with
        | nil => cases (List.cons.inj hsplit).1
        | cons d newer =>
          obtain ⟨rfl, hrest⟩ := List.cons.inj hsplit
          have hmem : (j, .deleteEvents key) ∈ w₃.deeds := by
            rw [hrest]
            exact List.mem_append_right newer List.mem_cons_self
          rw [honce key hmem]
          exact List.mem_cons_self

end Depot

end EventLedger
