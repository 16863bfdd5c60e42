import EventLedger.Proofs.Clients.Missed

/-!
# What the commits tell

The commits to a stream, in the order in which they were accepted, explain all of its events: each
batch stands right behind those before it and is what its decision emits on them.

## Main results

* `Setting.Inv.nodup_numbers`, `Setting.Inv.nodup_batchIds` — no call commits twice, and no batch
  identifier is used twice.
* `Setting.Inv.apart_of_adjacent` — **commits right after another have different sources.**
-/

namespace EventLedger

variable {σ ε : Type}

/-- A commit to a stream was noted at the moment at which the older ones had been. -/
theorem History.exists_note_of_commitsOn {key : StreamKey} {h : Commit σ ε} :
    ∀ {t : History σ ε} {newer older : List (Commit σ ε)},
      commitsOn key t = newer ++ h :: older →
        ∃ n t', n :: t' <:+ t ∧ n.commit? = some h ∧ h.key = key ∧ commitsOn key t' = older
  | [], newer, older, hsplit => by simp [commitsOn, commits] at hsplit
  | n :: t, newer, older, hsplit => by
    have hold : ∀ {newer}, commitsOn key t = newer ++ h :: older →
        ∃ n' t', n' :: t' <:+ n :: t ∧ n'.commit? = some h ∧ h.key = key ∧
          commitsOn key t' = older := by
      intro newer hsplit
      obtain ⟨n', t', hsuffix, hrest⟩ := exists_note_of_commitsOn hsplit
      exact ⟨n', t', hsuffix.trans (List.suffix_cons n t), hrest⟩
    rw [commitsOn_cons] at hsplit
    cases hcommit : n.commit? with
    | none => exact hold (by simpa [hcommit] using hsplit)
    | some k =>
      by_cases hkey : k.key = key
      · cases newer with
        | nil =>
          obtain ⟨rfl, rfl⟩ : k = h ∧ commitsOn key t = older := by
            simpa [hcommit, hkey] using hsplit
          exact ⟨n, t, List.suffix_refl _, hcommit, hkey, rfl⟩
        | cons k' newer =>
          have hrest : k = k' ∧ commitsOn key t = newer ++ h :: older := by
            simpa [hcommit, hkey] using hsplit
          exact hold hrest.2
      · exact hold (by simpa [hcommit, hkey] using hsplit)

/-- No two commits have the same of something that differs between each one and the older ones. -/
theorem nodup_map_of_splits {α β : Type} {f : α → β} : ∀ {l : List α},
    (∀ newer a older, l = newer ++ a :: older → ∀ b ∈ older, f b ≠ f a) → (l.map f).Nodup
  | [], _ => List.nodup_nil
  | a :: l, h => by
    refine List.nodup_cons.2 ⟨?_, nodup_map_of_splits ?_⟩
    · intro hmem
      obtain ⟨b, hb, heq⟩ := List.mem_map.1 hmem
      exact h [] a l rfl b hb heq
    · intro newer a' older hsplit
      exact h (a :: newer) a' older (by rw [hsplit]; rfl)

namespace Setting

variable {T : Setting σ ε} {w : World σ ε} {key : StreamKey} {h h' : Commit σ ε}
  {newer older : List (Commit σ ε)}

/-- What is known of a commit, and where its batch stands. -/
theorem Inv.place (hw : T.Inv w) (hsplit : History.commitsOn key w.history = newer ++ h :: older) :
    ∃ t, T.Accounted t h ∧ h.key = key ∧ History.commitsOn key t = older ∧
      (w.events key).take (T.eventsAfter key t).length = T.eventsAfter key t ∧
      ((w.events key).drop (T.eventsAfter key t).length).take h.stored.length = h.stored := by
  obtain ⟨n, t, hn, hcommit, hkey, hold⟩ := History.exists_note_of_commitsOn hsplit
  obtain ⟨rest, hevents⟩ := (hw.position hn hcommit).1
  rw [hkey] at hevents
  refine ⟨t, hw.accounted n t h hn hcommit, hkey, hold, ?_, ?_⟩
  · rw [← hevents, List.append_assoc, List.take_left]
  · rw [← hevents, List.append_assoc, List.drop_left, List.take_left]

/-- Without outsiders every commit is one of a call. -/
theorem Inv.exists_author (hw : T.Inv w) (hno : ¬T.outsiders)
    (hsplit : History.commitsOn key w.history = newer ++ h :: older) : ∃ c, h.author = some c := by
  obtain ⟨t, hacc, -⟩ := hw.place hsplit
  cases hauthor : h.author with
  | none => exact absurd (hacc.outside hauthor) hno
  | some c => exact ⟨c, rfl⟩

/-- A commit that is older than one of a call was not made by that call. -/
theorem Inv.number_ne (hw : T.Inv w)
    (hsplit : History.commitsOn key w.history = newer ++ h :: older) {c : Caller σ ε}
    (hc : h.author = some c) (hh' : h' ∈ older) : h'.author.map (·.number) ≠ some c.number := by
  obtain ⟨t, hacc, -, rfl, -⟩ := hw.place hsplit
  exact (hacc.call c hc).first h' (List.mem_filter.1 hh').1

/-- A commit that is older than one of a call has another batch identifier. -/
theorem Inv.batchId_ne (hw : T.Inv w)
    (hsplit : History.commitsOn key w.history = newer ++ h :: older) {c : Caller σ ε}
    (hc : h.author = some c) (hh' : h' ∈ older) : h'.batchId ≠ h.batchId := by
  obtain ⟨t, hacc, rfl, rfl, -⟩ := hw.place hsplit
  have hmem : h' ∈ History.commitsOn h.key w.history := by
    rw [hsplit]
    exact List.mem_append_right _ (List.mem_cons_of_mem _ hh')
  obtain ⟨n, t', hn, hcommit⟩ := History.exists_note_of_mem_commits (List.mem_filter.1 hmem).1
  have hacc' := hw.accounted n t' h' hn hcommit
  obtain ⟨e, he⟩ := List.exists_mem_of_ne_nil _ hacc'.nonempty
  have hmem : e ∈ T.eventsAfter h.key t :=
    List.mem_append_right _ (List.mem_flatMap.2 ⟨h', List.mem_reverse.2 hh', he⟩)
  rw [← hacc'.batch e he]
  exact (hacc.call c hc).fresh e hmem

/-- **No call commits twice.** -/
theorem Inv.nodup_numbers (hw : T.Inv w)
    (hcalls : ∀ h ∈ History.commitsOn key w.history, ∃ c, h.author = some c) :
    ((History.commitsOn key w.history).map fun h => h.author.map (·.number)).Nodup := by
  refine nodup_map_of_splits ?_
  intro newer h older hsplit h' hh'
  obtain ⟨c, hc⟩ := hcalls h (by rw [hsplit]; exact List.mem_append_right _ List.mem_cons_self)
  rw [hc]
  exact hw.number_ne hsplit hc hh'

/-- **No batch identifier is used twice.** -/
theorem Inv.nodup_batchIds (hw : T.Inv w)
    (hcalls : ∀ h ∈ History.commitsOn key w.history, ∃ c, h.author = some c) :
    ((History.commitsOn key w.history).map (·.batchId)).Nodup := by
  refine nodup_map_of_splits ?_
  intro newer h older hsplit h' hh'
  obtain ⟨c, hc⟩ := hcalls h (by rw [hsplit]; exact List.mem_append_right _ List.mem_cons_self)
  exact hw.batchId_ne hsplit hc hh'

/-- **Commits right after another have different sources.** -/
theorem Inv.apart_of_adjacent (hw : T.Inv w)
    (hsplit : History.commitsOn key w.history = newer ++ h :: h' :: older) {c c' : Caller σ ε}
    (hc : h.author = some c) (hc' : h'.author = some c') (hsource : c.source ≠ none) :
    c'.source ≠ c.source := by
  intro heq
  obtain ⟨t, hacc, rfl, hold, -⟩ := hw.place hsplit
  have hsplit' : History.commitsOn h.key w.history = (newer ++ [h]) ++ h' :: older := by
    rw [hsplit, List.append_assoc]
    rfl
  obtain ⟨t', hacc', -⟩ := hw.place hsplit'
  obtain ⟨s, hs⟩ := Option.ne_none_iff_exists'.1 hsource
  refine (hacc.call c hc).apart ?_
  -- the events before the batch end with those of the other commit
  have hlast := getLast?_eventsAfter (T := T) hold hacc'.nonempty
  cases he : h'.stored.getLast? with
  | none => exact absurd (List.getLast?_eq_none_iff.1 he) hacc'.nonempty
  | some e =>
    refine ⟨s, e, hs, hlast.trans he, ?_⟩
    rw [AggregateStore.carries, (hacc'.call c' hc').source e (List.mem_of_getLast? he), heq, hs]
    exact beq_self_eq_true _

end Setting

end EventLedger
