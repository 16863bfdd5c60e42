import EventLedger.Proofs.Clients.Loading

/-!
# Recognising a change that was made before

An update with a source looks at the last batch before it decides.  It either finds a batch that
carries the source, which is then the last one at that moment, or it knows that the event before its
own batch would have another source, unless further events are stored meanwhile.

## Main results

* `trailingBatch_append_of_lt`, `trailingBatch_append_batch` — the last batch of a longer stream.
* `Setting.keeps_lastBatch` — **the windows end with the last batch**, even if the stream grows
  between two of them.
* `Setting.keeps_redelivered` — what an update knows of its source before it decides.
-/

namespace EventLedger

variable {σ ε : Type}

/-! ### Trailing batches -/

theorem getLast?_trailingBatch (es : List CommittedEvent) :
    (trailingBatch es).getLast? = es.getLast? := by
  rcases List.eq_nil_or_concat es with rfl | ⟨es, e, rfl⟩
  · rfl
  · simp [trailingBatch]

/-- A trailing batch with an event before it does not depend on what is further ahead. -/
theorem trailingBatch_append_of_lt {es : List CommittedEvent} (pre : List CommittedEvent)
    (h : (trailingBatch es).length < es.length) : trailingBatch (pre ++ es) = trailingBatch es := by
  unfold trailingBatch at h ⊢
  cases hlast : es.getLast? with
  | none =>
    obtain rfl := List.getLast?_eq_none_iff.1 hlast
    simp at h
  | some last =>
    rw [hlast] at h
    rw [List.getLast?_append, hlast]
    simp only [Option.some_or, List.length_reverse] at h ⊢
    rw [List.reverse_append, List.takeWhile_append, if_neg]
    rw [List.length_reverse]
    omega

/-- Events of one batch after events of others are the trailing batch. -/
theorem trailingBatch_append_batch {pre es : List CommittedEvent} {b : Uuid} (hne : es ≠ [])
    (hes : ∀ e ∈ es, e.batchId = b) (hpre : ∀ e ∈ pre, e.batchId ≠ b) :
    trailingBatch (pre ++ es) = es := by
  obtain ⟨last, hlast⟩ : ∃ last, es.getLast? = some last := by
    cases h : es.getLast? with
    | none => exact absurd (List.getLast?_eq_none_iff.1 h) hne
    | some last => exact ⟨last, rfl⟩
  have hb : last.batchId = b := hes last (List.mem_of_getLast? hlast)
  have hall : ∀ e ∈ es.reverse, (e.batchId == last.batchId) = true := by
    intro e he
    simp [hes e (List.mem_reverse.1 he), hb]
  have hnone : pre.reverse.takeWhile (fun e => e.batchId == last.batchId) = [] := by
    cases hrev : pre.reverse with
    | nil => rfl
    | cons e rest =>
      have he : e.batchId ≠ b := hpre e (List.mem_reverse.1 (hrev ▸ List.mem_cons_self))
      rw [List.takeWhile_cons_of_neg (by simpa [hb] using he)]
  unfold trailingBatch
  rw [List.getLast?_append, hlast]
  simp only [Option.some_or]
  rw [List.reverse_append, List.takeWhile_append_of_pos hall, hnone, List.append_nil,
    List.reverse_reverse]

namespace Setting

variable {T : Setting σ ε} {c : Caller σ ε} {w w' : World σ ε} {hc : T.Admits c}

/-! ### The last batch -/

/-- **The windows end with the last batch.**  The stream may grow from one to the next, so it is the
last batch at the end, not at the beginning. -/
theorem keeps_lastBatch {V window : Nat} (hwindow : 0 < window) (hw : T.Inv w)
    (hle : V ≤ (w.events c.key).length) :
    Call.Keeps (T.discipline c hc)
      (T.Ends c w (fun w' batch => ∃ V', V ≤ V' ∧ V' ≤ (w'.events c.key).length ∧
        batch = trailingBatch ((w'.events c.key).take V')) (Gone c))
      (AggregateStore.lastBatch c.key V window) w := by
  induction hm : V - window using Nat.strongRecOn generalizing window w with
  | ind m ih =>
    have hstart : 1 ≤ AggregateStore.windowStart V window := Nat.le_max_right _ _
    rw [AggregateStore.lastBatch]
    refine keeps_seq hw (keeps_checkLive hw) ?_ fun _ _ _ h => h
    intro w₁ _ h₁ _
    refine keeps_seq h₁.inv (keeps_load h₁.inv hstart)
      (fun w₂ (events : List CommittedEvent) h₂ hevents => ?_) fun _ _ _ h => h
    have hle₂ : V ≤ (w₂.events c.key).length :=
      Nat.le_trans hle ((h₁.trans h₂).events_length hc.tracked)
    dsimp only
    split
    next hstop =>
      refine keeps_done ⟨_, hle₂, Nat.le_refl _, ?_⟩
      rw [List.take_length]
      rcases hstop with hone | hlt | hzero
      · rw [hone] at hevents
        rw [hevents]
        rfl
      · rw [← List.take_append_drop (AggregateStore.windowStart V window - 1) (w₂.events c.key),
          ← hevents, trailingBatch_append_of_lt _ hlt]
      · omega
    next hgo =>
      have hne : AggregateStore.windowStart V window ≠ 1 := fun h => hgo (.inl h)
      have hlt := AggregateStore.window_lt_of_windowStart_ne_one hne
      exact ih (V - window * 4) (by omega) (by omega) h₂.inv hle₂ rfl

/-! ### The source of the last batch -/

/-- Unless further events are stored, the last of the first `V` ones has another source. -/
def Apart (c : Caller σ ε) (V : Nat) (w : World σ ε) : Prop :=
  V < (w.events c.key).length ∨ ¬LastCarries c.source ((w.events c.key).take V)

/-- The batch is the last one of the first `V'` events for some `V'` that is at least `V`, and it
carries the source of the call. -/
def Found (c : Caller σ ε) (V : Nat) (batch : List CommittedEvent) (w : World σ ε) : Prop :=
  ∃ V', V ≤ V' ∧ V' ≤ (w.events c.key).length ∧
    batch = trailingBatch ((w.events c.key).take V') ∧
    LastCarries c.source ((w.events c.key).take V')

/-- What an update knows before it decides: the batch that was found, or that its own would stand
apart. -/
def Looked (c : Caller σ ε) (V : Nat) (w : World σ ε) : Option (List CommittedEvent) → Prop
  | none => Apart c V w
  | some batch => Found c V batch w

theorem Apart.later (hc : T.Admits c) {V : Nat} (hV : V ≤ (w.events c.key).length)
    (h : Apart c V w) (hle : T.Later w w') : Apart c V w' := by
  rcases h with hlt | hapart
  · exact .inl (Nat.lt_of_lt_of_le hlt (hle.events_length hc.tracked))
  · exact .inr (by rwa [hle.take_events hc.tracked hV])

/-- The batch of the last events counts only if it carries the source. -/
theorem looked_batchIfCarried {V V' : Nat} {source : String} (hsource : c.source = some source)
    (hVV' : V ≤ V') (hV' : V' ≤ (w.events c.key).length) (hpos : 1 ≤ V') :
    Looked c V w (AggregateStore.batchIfCarried source
      (trailingBatch ((w.events c.key).take V'))) := by
  unfold AggregateStore.batchIfCarried
  rw [getLast?_trailingBatch]
  cases hlast : ((w.events c.key).take V').getLast? with
  | none =>
    have := congrArg List.length (List.getLast?_eq_none_iff.1 hlast)
    simp only [List.length_take, List.length_nil] at this
    omega
  | some e =>
    simp only
    split
    next hcarries => exact ⟨V', hVV', hV', rfl, source, e, hsource, hlast, hcarries⟩
    next hcarries =>
      rcases Nat.eq_or_lt_of_le hVV' with rfl | hlt
      · refine .inr ?_
        rintro ⟨s, e', hs, he', hcarries'⟩
        obtain rfl : source = s := Option.some.inj (hsource.symm.trans hs)
        obtain rfl : e = e' := Option.some.inj (hlast.symm.trans he')
        exact hcarries hcarries'
      · exact .inl (Nat.lt_of_lt_of_le hlt hV')

/-- A loaded stream shows all of the last batch if it holds an event before it or begins with the
first event. -/
theorem trailingBatch_take_version {l : LoadedStream ε} (hl : T.Genuine c.id (w.events c.key) l)
    (hcomplete : (trailingBatch l.committed).length < l.committed.length ∨ l.snapshot = none) :
    trailingBatch ((w.events c.key).take l.version) = trailingBatch l.committed := by
  rw [hl.take_version]
  rcases hcomplete with hlt | hnone
  · exact trailingBatch_append_of_lt _ hlt
  · rw [LoadedStream.snapshotVersion, hnone]
    rfl

theorem keeps_batchOfSource {l : LoadedStream ε} {source : String}
    (hsource : c.source = some source) (hw : T.Inv w) (hl : T.Genuine c.id (w.events c.key) l) :
    Call.Keeps (T.discipline c hc)
      (T.Ends c w (fun w' r => Looked c l.version w' r) (Gone c))
      (c.store.batchOfSource c.id l source) w := by
  unfold AggregateStore.batchOfSource
  split
  next hother =>
    -- the last event alone tells that the batch has another source
    refine keeps_done (.inr ?_)
    rintro ⟨s, e, hs, he, hcarries⟩
    obtain rfl : source = s := Option.some.inj (hsource.symm.trans hs)
    cases hlast : l.committed.getLast? with
    | none => simp [hlast] at hother
    | some e' =>
      rw [hl.take_version, List.getLast?_append, hlast, Option.some_or] at he
      obtain rfl := Option.some.inj he
      simp [hlast, hcarries] at hother
  next =>
    dsimp only
    split
    next hshown =>
      obtain ⟨htail, hcomplete⟩ : trailingBatch l.committed ≠ [] ∧
          ((trailingBatch l.committed).length < l.committed.length ∨ l.snapshot = none) := by
        simpa using hshown
      rw [← trailingBatch_take_version hl hcomplete] at htail ⊢
      refine keeps_done (looked_batchIfCarried hsource (Nat.le_refl _) hl.version_le ?_)
      rcases Nat.eq_zero_or_pos l.version with hzero | hpos
      · rw [hzero] at htail
        exact absurd rfl htail
      · exact hpos
    next =>
      split
      next hzero =>
        refine keeps_done (.inr ?_)
        rintro ⟨s, e, -, he, -⟩
        rw [hzero] at he
        cases he
      next hpos =>
        have hpos : 1 ≤ l.version := Nat.pos_of_ne_zero hpos
        refine keeps_seq hw (keeps_lastBatch (by decide) hw hl.version_le) ?_ fun _ _ _ h => h
        intro w₁ batch h₁ hbatch
        obtain ⟨V', hVV', hV', rfl⟩ := hbatch
        exact keeps_done (looked_batchIfCarried hsource hVV' hV' (Nat.le_trans hpos hVV'))

/-- **What an update knows of its source before it decides.** -/
theorem keeps_redelivered {l : LoadedStream ε} (hw : T.Inv w)
    (hl : T.Genuine c.id (w.events c.key) l) :
    Call.Keeps (T.discipline c hc)
      (T.Ends c w (fun w' r => Looked c l.version w' r) (Gone c))
      (c.store.redelivered c.id l c.source) w := by
  cases hsource : c.source with
  | none =>
    refine keeps_done (.inr ?_)
    rintro ⟨s, e, hs, -⟩
    rw [hsource] at hs
    cases hs
  | some source => exact keeps_batchOfSource hsource hw hl

end Setting

end EventLedger
