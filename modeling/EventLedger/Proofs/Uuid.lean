import EventLedger.Uuid

/-!
# Identifiers are read back

The hyphenated form begins with a digit, so it is taken for no wrapped one, and it breaks off at a
hyphen where the bare digits would go on; group by group its digits are those of the identifier.

## Main results

* `Uuid.readGroups_groups` — digits that were written in groups are read in these groups.
* `Uuid.parse_text` — **an identifier is read back as it was written.**
* `Uuid.text_injective` — different identifiers are written differently.
-/

namespace EventLedger.Uuid

theorem digit?_digitChar (d : Fin 16) : digit? (digitChar d) = some d := by
  revert d
  decide

/-- No digit is the first character of a wrapping. -/
theorem digitChar_ne (d : Fin 16) :
    digitChar d ≠ '\x7b' ∧ (digitChar d).toLower ≠ 'u' := by
  revert d
  decide

theorem digit?_hyphen : digit? '-' = none := by decide

theorem readDigits_map (ds : List (Fin 16)) (rest : List Char) :
    readDigits ds.length (ds.map digitChar ++ rest) = some (ds, rest) := by
  induction ds with
  | nil => rfl
  | cons d ds ih =>
    simp only [List.length_cons, List.map_cons, List.cons_append, readDigits, digit?_digitChar, ih]
    rfl

/-- Digits that break off at a hyphen are too few. -/
theorem readDigits_hyphen (rest : List Char) : ∀ (ds : List (Fin 16)) {n : Nat}, ds.length < n →
    readDigits n (ds.map digitChar ++ '-' :: rest) = none
  | ds, 0, h => absurd h (Nat.not_lt_zero _)
  | [], n + 1, _ => by
    simp only [List.map_nil, List.nil_append, readDigits, digit?_hyphen]
    rfl
  | d :: ds, n + 1, h => by
    have hds : readDigits n (ds.map digitChar ++ '-' :: rest) = none :=
      readDigits_hyphen rest ds (Nat.lt_of_succ_lt_succ h)
    simp only [List.map_cons, List.cons_append, readDigits, digit?_digitChar, hds]
    rfl

/-- Digits that were written in groups are read in these groups. -/
theorem readGroups_groups : ∀ (ns : List Nat) (ds : List (Fin 16)), ns ≠ [] →
    ds.length = ns.foldr (· + ·) 0 → readGroups ns (groups ns ds) = some ds
  | [], _, h, _ => absurd rfl h
  | [n], ds, _, h => by
    obtain rfl : ds.length = n := by simpa using h
    have hread := readDigits_map ds []
    rw [List.append_nil] at hread
    rw [groups, List.take_length, readGroups, hread]
    rfl
  | n :: m :: ns, ds, _, h => by
    have hsum : ds.length = n + (m :: ns).foldr (· + ·) 0 := h
    have htake : (ds.take n).length = n := by
      rw [List.length_take]
      omega
    have hrest : readGroups (m :: ns) (groups (m :: ns) (ds.drop n)) = some (ds.drop n) := by
      refine readGroups_groups (m :: ns) (ds.drop n) (List.cons_ne_nil m ns) ?_
      rw [List.length_drop]
      omega
    have hread := readDigits_map (ds.take n) ('-' :: groups (m :: ns) (ds.drop n))
    rw [htake] at hread
    simp only [groups, readGroups, hread]
    change (readGroups (m :: ns) (groups (m :: ns) (ds.drop n))).map (ds.take n ++ ·) = some ds
    rw [hrest, Option.map_some, List.take_append_drop]

/-- A text that begins with a digit has no wrapping. -/
theorem unwrap?_of_digit {s : String} {d : Fin 16} {cs : List Char}
    (h : s.toList = digitChar d :: cs) : unwrap? s = none := by
  obtain ⟨hbrace, hu⟩ := digitChar_ne d
  have hhead : s.toList.head? ≠ some '\x7b' := by
    rw [h, List.head?_cons]
    exact fun heq => hbrace (Option.some.inj heq)
  have hurn : (s.toList.take urn.length).map Char.toLower ≠ urn := by
    have hletters : urn = ['u', 'r', 'n', ':', 'u', 'u', 'i', 'd', ':'] := by decide
    intro heq
    rw [h, hletters, List.length_cons, List.take_succ_cons, List.map_cons] at heq
    exact hu (List.cons.inj heq).1
  unfold unwrap?
  simp only [hhead, hurn, false_and, if_false, ite_self]

/-- **An identifier is read back as it was written.** -/
theorem parse_text (u : Uuid) : parse u.text = .ok u := by
  have hgroups : readGroups groupSizes u.text.toList = some u.digits := by
    rw [text, String.toList_ofList]
    exact readGroups_groups groupSizes u.digits (by decide) u.length_eq
  have hfirst : u.text.toList = (u.digits.take 8).map digitChar ++
      '-' :: groups [4, 4, 4, 12] (u.digits.drop 8) := by
    rw [text, String.toList_ofList]
    rfl
  have htake : (u.digits.take 8).length = 8 := by
    rw [List.length_take, u.length_eq]
    decide
  have hbare : readGroups [32] u.text.toList = none := by
    rw [hfirst, readGroups, readDigits_hyphen _ _ (by omega)]
    rfl
  have hwrapped : unwrap? u.text = none := by
    obtain ⟨d, ds, hds⟩ := List.exists_cons_of_length_eq_add_one htake
    rw [hds, List.map_cons, List.cons_append] at hfirst
    exact unwrap?_of_digit hfirst
  have hdigits : ofDigits? u.digits = some u := dif_pos u.length_eq
  have hparse : parse? u.text = some u := by
    rw [parse?, hwrapped]
    simp only [hbare, hgroups]
    exact hdigits
  rw [parse, hparse]

/-- Different identifiers are written differently. -/
theorem text_injective : Function.Injective text := by
  intro u v h
  have hparse := parse_text u
  rw [h, parse_text v] at hparse
  exact (Except.ok.inj hparse).symm

end EventLedger.Uuid
