import EventLedger.Proofs.Clients.Invariant

/-!
# The requests of a call

One statement for each request that neither commits nor decides: what the call knows once it is
answered, whatever the others did before.

## Main definitions

* `Setting.At c w w'` — a later moment at which the call has neither committed nor met a conflict.
* `Setting.Ends c w good bad` — the postcondition of a part of a call that begins at `w`.

## Main results

* `Setting.keeps_seq` — one part of a call after another.
* `Setting.keeps_ask` — **a request, from what the world answers.**
-/

namespace EventLedger

variable {σ ε α β : Type}

namespace Setting

variable (T : Setting σ ε) (c : Caller σ ε)

/-- A later moment at which the call has neither committed nor met a conflict since. -/
structure At (w w' : World σ ε) : Prop extends Since T c w w' where
  inv : T.Inv w'

/-- A part of the call that begins at `w` ends later, with a result that is `good` or a failure that
is `bad`, and meanwhile the call neither commits nor meets a conflict. -/
def Ends (w : World σ ε) (good : World σ ε → α → Prop) (bad : World σ ε → Error → Prop)
    (w' : World σ ε) (r : Except Error α) : Prop :=
  T.Since c w w' ∧
    match r with
    | .ok a => good w' a
    | .error e => bad w' e

/-- The failure of a part of a call that cannot fail. -/
def Never (_ : World σ ε) (_ : Error) : Prop := False

/-- The failure of a cancelled call. -/
def Gone (w : World σ ε) (e : Error) : Prop := e = .cancelled ∧ w.fired c.number = true

variable {T} {c} {w w' w'' : World σ ε} {hc : T.Admits c}
variable {good : World σ ε → α → Prop} {good' : World σ ε → β → Prop}
variable {bad bad' : World σ ε → Error → Prop}

theorem At.trans (h : T.At c w w') (h' : T.At c w' w'') : T.At c w w'' :=
  ⟨h.toSince.trans h'.toSince, h'.inv⟩

/-! ### Parts of a call -/

theorem keeps_done {a : α} (h : good w a) :
    Call.Keeps (T.discipline c hc) (T.Ends c w good bad) (.done a) w :=
  ⟨.refl w, h⟩

theorem keeps_failed {e : Error} (h : bad w e) :
    Call.Keeps (T.discipline c hc) (T.Ends c w good bad) (.failed e) w :=
  ⟨.refl w, h⟩

/-- What is known at the end of a part of a call may be weakened. -/
theorem keeps_imp {good' : World σ ε → α → Prop} {call : StoreCall σ ε α} (hw : T.Inv w)
    (hcall : Call.Keeps (T.discipline c hc) (T.Ends c w good bad) call w)
    (hok : ∀ w' a, T.At c w w' → good w' a → good' w' a)
    (herr : ∀ w' e, T.At c w w' → bad w' e → bad' w' e) :
    Call.Keeps (T.discipline c hc) (T.Ends c w good' bad') call w := by
  refine hcall.imp ?_ hw
  intro w' r hi h
  obtain ⟨hsince, h⟩ := h
  cases r with
  | ok a => exact ⟨hsince, hok w' a ⟨hsince, hi⟩ h⟩
  | error e => exact ⟨hsince, herr w' e ⟨hsince, hi⟩ h⟩

/-- A part of a call that begins later. -/
theorem keeps_from {call : StoreCall σ ε α} (h : T.At c w w')
    (hcall : Call.Keeps (T.discipline c hc) (T.Ends c w' good bad) call w') :
    Call.Keeps (T.discipline c hc) (T.Ends c w good bad) call w' :=
  hcall.imp (fun _ _ _ hr => ⟨h.toSince.trans hr.1, hr.2⟩) h.inv

/-- The rest of a call after its first part. -/
theorem keeps_then {call : StoreCall σ ε α} {f : α → StoreCall σ ε β}
    {post : World σ ε → Except Error β → Prop} (hw : T.Inv w)
    (hcall : Call.Keeps (T.discipline c hc) (T.Ends c w good bad) call w)
    (hok : ∀ w' a, T.At c w w' → good w' a → Call.Keeps (T.discipline c hc) post (f a) w')
    (herr : ∀ w' e, T.At c w w' → bad w' e → post w' (.error e)) :
    Call.Keeps (T.discipline c hc) post (call.bind f) w :=
  hcall.bind hw (fun w' a hi h => hok w' a ⟨h.1, hi⟩ h.2) fun w' e hi h => herr w' e ⟨h.1, hi⟩ h.2

/-- **One part of a call after another.** -/
theorem keeps_seq {call : StoreCall σ ε α} {f : α → StoreCall σ ε β} (hw : T.Inv w)
    (hcall : Call.Keeps (T.discipline c hc) (T.Ends c w good bad) call w)
    (hok : ∀ w' a, T.At c w w' → good w' a →
      Call.Keeps (T.discipline c hc) (T.Ends c w' good' bad') (f a) w')
    (herr : ∀ w' e, T.At c w w' → bad w' e → bad' w' e) :
    Call.Keeps (T.discipline c hc) (T.Ends c w good' bad') (call.bind f) w :=
  keeps_then hw hcall (fun w' a h ha => keeps_from h (hok w' a h ha))
    fun w' e h he => ⟨h.toSince, herr w' e h he⟩

/-- **A request, from what the world answers.** -/
theorem keeps_ask {q : StoreRequest σ ε} {good : World σ ε → q.Answer → Prop}
    (hq : ∀ w₁, T.At c w w₁ → T.Permits c w₁ q) (hquiet : ∀ a, Quiet (σ := σ) ⟨some c, q, a⟩)
    (hgood : ∀ a w₁ w₂, T.At c w w₁ → w₁.serves c q a w₂ → T.At c w w₂ → good w₂ a) :
    Call.Keeps (T.discipline c hc) (T.Ends c w good bad) (StoreCall.ask q) w := by
  intro w₁ hrely hw₁
  have h₁ : T.At c w w₁ := ⟨hrely.since, hw₁⟩
  refine ⟨hq w₁ h₁, ?_⟩
  intro a w₂ hserves
  have h₂ : T.At c w w₂ :=
    ⟨h₁.toSince.trans (.of_serves hw₁ hc (hq w₁ h₁) (hquiet a) hserves),
      (hw₁.serves hc (hq w₁ h₁) hserves).1⟩
  exact ⟨h₂.toSince, hgood a w₁ w₂ h₁ hserves h₂⟩

/-! ### Cancelling, waiting and chance -/

theorem keeps_isCancelled :
    Call.Keeps (T.discipline c hc) (T.Ends c w (fun w' b => b = w'.fired c.number) Never)
      StoreCall.isCancelled w := by
  refine keeps_ask (fun _ _ => trivial) (fun _ => ⟨rfl, rfl⟩) ?_
  intro a w₁ w₂ _ hserves _
  obtain ⟨_, ⟨rfl, rfl⟩, rfl⟩ := hserves
  rfl

theorem keeps_checkLive (hw : T.Inv w) :
    Call.Keeps (T.discipline c hc) (T.Ends c w (fun _ _ => True) (Gone c))
      StoreCall.checkLive w := by
  refine keeps_seq hw keeps_isCancelled ?_ fun _ _ _ h => h.elim
  intro w' b h hb
  split
  next hfired => exact keeps_failed ⟨rfl, hb ▸ hfired⟩
  next => exact keeps_done trivial

theorem keeps_pause {d : Duration} (hw : T.Inv w) :
    Call.Keeps (T.discipline c hc) (T.Ends c w (fun _ _ => True) (Gone c))
      (StoreCall.pause d) w := by
  have hwait : Call.Keeps (T.discipline c hc)
      (T.Ends c w (fun w' b => b = true → w'.fired c.number = true) Never)
      (StoreCall.wait d) w := by
    refine keeps_ask (fun _ _ => trivial) (fun _ => ⟨rfl, rfl⟩) ?_
    intro a w₁ w₂ _ hserves _
    obtain ⟨_, ⟨hfired, rfl⟩, rfl⟩ := hserves
    exact hfired
  refine keeps_seq hw hwait ?_ fun _ _ _ h => h.elim
  intro w' b h hb
  split
  next hfired => exact keeps_failed ⟨rfl, hb hfired⟩
  next => exact keeps_done trivial

theorem keeps_now :
    Call.Keeps (T.discipline c hc) (T.Ends c w (fun _ _ => True) Never) StoreCall.now w :=
  keeps_ask (fun _ _ => trivial) (fun _ => ⟨rfl, rfl⟩) fun _ _ _ _ _ _ => trivial

theorem keeps_roll :
    Call.Keeps (T.discipline c hc) (T.Ends c w (fun _ _ => True) Never) StoreCall.roll w :=
  keeps_ask (fun _ _ => trivial) (fun _ => ⟨rfl, rfl⟩) fun _ _ _ _ _ _ => trivial

theorem keeps_readState {state : Json} :
    Call.Keeps (T.discipline c hc) (T.Ends c w (fun _ r => r = T.codec.readState state) Never)
      (StoreCall.readState state) w := by
  refine keeps_ask (fun _ _ => trivial) (fun _ => ⟨rfl, rfl⟩) ?_
  intro a w₁ w₂ _ hserves _
  obtain ⟨_, ⟨rfl, rfl⟩, rfl⟩ := hserves
  rw [hc.fits.codec]

/-- A fresh identifier is asked for only by a call that has missed nothing. -/
theorem keeps_freshId (hmissed : ∀ w', T.At c w w' → ∀ h, ¬T.Missed c w' h) :
    Call.Keeps (T.discipline c hc)
      (T.Ends c w (fun w' b => (c.number, b) ∈ History.issued w'.history) Never)
      StoreCall.freshId w := by
  refine keeps_ask hmissed (fun _ => ⟨rfl, rfl⟩) ?_
  intro a w₁ w₂ _ hserves _
  obtain ⟨_, ⟨-, rfl⟩, rfl⟩ := hserves
  exact List.mem_cons_self

/-! ### Caches -/

/-- A cached stream is true, and no older than the last dropping of its key. -/
theorem keeps_cached :
    Call.Keeps (T.discipline c hc)
      (T.Ends c w (fun w' r => ∀ l, r = some l → T.Faithful c.id (w'.events c.key) l ∧
        w'.marks c.cache c.key ≤ l.version) Never)
      (StoreCall.cached c.key) w := by
  refine keeps_ask (fun _ _ => trivial) (fun _ => ⟨rfl, rfl⟩) ?_
  intro a w₁ w₂ h₁ hserves _
  obtain ⟨_, ⟨now, rfl, rfl⟩, rfl⟩ := hserves
  intro l hl
  obtain ⟨e, he, rfl⟩ := StreamCache.entry?_of_get hl
  exact h₁.inv.cached c.cache c.key e hc.tracked he

theorem keeps_generation :
    Call.Keeps (T.discipline c hc)
      (T.Ends c w (fun w' g => g = (w'.caches c.cache).generation c.key) Never)
      (StoreCall.generation c.key) w := by
  refine keeps_ask (fun _ _ => trivial) (fun _ => ⟨rfl, rfl⟩) ?_
  intro a w₁ w₂ _ hserves _
  obtain ⟨_, ⟨rfl, rfl⟩, rfl⟩ := hserves
  rfl

/-- A true stream may be kept if it is new enough, as long as the key is not dropped. -/
theorem keeps_keep {g : Nat} {l : LoadedStream ε}
    (hl : T.Faithful c.id (w.events c.key) l)
    (hmark : ∀ w', T.At c w w' → (w'.caches c.cache).generation c.key = g →
      w'.marks c.cache c.key ≤ l.version) :
    Call.Keeps (T.discipline c hc) (T.Ends c w (fun _ _ => True) Never)
      (StoreCall.keep c.key g l) w :=
  keeps_ask (fun w₁ h₁ => ⟨rfl, hl.mono (h₁.events c.key hc.tracked), hmark w₁ h₁⟩)
    (fun _ => ⟨rfl, rfl⟩) fun _ _ _ _ _ _ => trivial

/-- Once a key is dropped, the mark of its cache covers all events that were stored before. -/
theorem keeps_invalidate :
    Call.Keeps (T.discipline c hc)
      (T.Ends c w (fun w' _ => (w.events c.key).length ≤ w'.marks c.cache c.key) Never)
      (StoreCall.invalidate c.key) w := by
  refine keeps_ask (fun _ _ => trivial) (fun _ => ⟨rfl, rfl⟩) ?_
  intro a w₁ w₂ h₁ hserves _
  obtain ⟨_, rfl, rfl⟩ := hserves
  have hmarks : ((w₁.withCache c.cache ((w₁.caches c.cache).invalidate c.key)).marked c.cache
      c.key).marks c.cache c.key = (w₁.events c.key).length := by
    rw [marked_marks, if_pos ⟨rfl, rfl⟩]
    rfl
  exact Nat.le_trans (h₁.events_length hc.tracked) (Nat.le_of_eq hmarks.symm)

/-! ### Storage -/

/-- Reading the stream from a number on drops the events before it. -/
theorem keeps_load {start : Nat} (hw : T.Inv w) (hstart : 1 ≤ start) :
    Call.Keeps (T.discipline c hc)
      (T.Ends c w (fun w' es => es = (w'.events c.key).drop (start - 1)) (Gone c))
      (StoreCall.storage (.load c.key start)) w := by
  have htry : Call.Keeps (T.discipline c hc)
      (T.Ends c w (fun w' r => (∃ e, r = .error e ∧ Gone c w' e) ∨
        r = .ok ((w'.events c.key).drop (start - 1))) Never)
      (StoreCall.tryStorage (.load c.key start)) w := by
    refine keeps_ask (fun _ _ => trivial) (fun a => ⟨by cases a <;> rfl, rfl⟩) ?_
    intro a w₁ w₂ h₁ hserves _
    obtain ⟨_, ha, rfl⟩ := hserves
    obtain ⟨rfl, rfl⟩ := World.answersStorage_load.1 ha
    split
    next hfired => exact .inl ⟨_, rfl, rfl, hfired⟩
    next =>
      refine .inr ?_
      rw [EventLog.load_eq_drop (h₁.inv.gapFree c.key hc.tracked) hstart]
      rfl
  refine keeps_seq hw htry ?_ fun _ _ _ h => h.elim
  intro w' r h hr
  rcases hr with ⟨e, rfl, hgone⟩ | rfl
  · exact keeps_failed hgone
  · exact keeps_done rfl

theorem keeps_loadSnapshot :
    Call.Keeps (T.discipline c hc)
      (T.Ends c w (fun w' r => w'.mayLoad c c.key r) Never)
      (StoreCall.tryStorage (.loadSnapshot c.key)) w := by
  refine keeps_ask (fun _ _ => trivial) (fun a => ⟨by cases a <;> rfl, rfl⟩) ?_
  intro a w₁ w₂ _ hserves _
  obtain ⟨_, ⟨hload, rfl⟩, rfl⟩ := hserves
  cases a with
  | error e => exact hload
  | ok s => cases s with
    | none => trivial
    | some s => exact hload

/-- A sound snapshot may be brought. -/
theorem keeps_storeSnapshot {s : Snapshot} (hkey : s.key = c.key)
    (hs : T.Sound c.id (w.events c.key) s) :
    Call.Keeps (T.discipline c hc) (T.Ends c w (fun _ _ => True) Never)
      (StoreCall.tryStorage (.storeSnapshot s)) w :=
  keeps_ask (fun _ h₁ => ⟨hkey, hs.mono (h₁.events c.key hc.tracked)⟩)
    (fun a => ⟨by cases a <;> rfl, rfl⟩) fun _ _ _ _ _ _ => trivial

end Setting

end EventLedger
