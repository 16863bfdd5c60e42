import EventLedger.Event
import Mathlib.Data.List.Basic

/-!
# Values on one line

A line end inside a string is escaped, and nothing else that is printed has one: names of fields are
quoted as strings are, and numbers consist of digits, signs, points and the letter of an exponent.
So the text of a value stays on one line, whatever texts it holds, and values that are printed with
a line end after each can be told apart again.

## Main definitions

* `OneLine` — a text without a line end.

## Main results

* `OneLine.append`, `OneLine.join`, `OneLine.of_digits` — texts that are put together.
* `Json.oneLine_quote`, `Json.oneLine_floatText`, `Json.oneLine_render` — **a value is printed on
  one line.**
* `CommittedEvent.oneLine_line` — a stored event is printed on one line.
-/

namespace EventLedger

/-- The text has no line end. -/
def OneLine (s : String) : Prop := '\n' ∉ s.toList

instance (s : String) : Decidable (OneLine s) := inferInstanceAs (Decidable (¬('\n' ∈ s.toList)))

namespace OneLine

variable {s t : String}

theorem append (hs : OneLine s) (ht : OneLine t) : OneLine (s ++ t) := by
  rw [OneLine, String.toList_append, List.mem_append, not_or]
  exact ⟨hs, ht⟩

theorem join {ss : List String} (h : ∀ s ∈ ss, OneLine s) : OneLine (String.join ss) := by
  rw [OneLine, String.toList_join, List.mem_flatMap]
  rintro ⟨s, hs, hmem⟩
  exact h s hs hmem

/-- A part of the characters of a text on one line is on one line. -/
theorem of_subset (hs : OneLine s) (hsub : t.toList ⊆ s.toList) : OneLine t :=
  fun hmem => hs (hsub hmem)

theorem take (hs : OneLine s) (n : Nat) : OneLine (s.take n).toString := by
  refine hs.of_subset ?_
  change (s.take n).copy.toList ⊆ s.toList
  rw [String.toList_copy_take]
  exact List.take_subset n _

theorem drop (hs : OneLine s) (n : Nat) : OneLine (s.drop n).toString := by
  refine hs.of_subset ?_
  change (s.drop n).copy.toList ⊆ s.toList
  rw [String.toList_copy_drop]
  exact List.drop_subset n _

/-- The digits of a number are on one line. -/
theorem of_digits (n : Nat) : OneLine (toString n) := by
  change '\n' ∉ n.repr.toList
  rw [Nat.repr_eq_ofList_toDigits, String.toList_ofList]
  intro hmem
  have hdigit := Nat.isDigit_of_mem_toDigits (by decide) (by decide) hmem
  revert hdigit
  decide

theorem of_int (n : Int) : OneLine (toString n) := by
  cases n with
  | ofNat n => exact of_digits n
  | negSucc n => exact OneLine.append (s := "-") (by decide) (of_digits (n + 1))

theorem of_replicate_zero (n : Nat) : OneLine (String.ofList (List.replicate n '0')) := by
  rw [OneLine, String.toList_ofList]
  intro hmem
  exact absurd (List.eq_of_mem_replicate hmem) (by decide)

end OneLine

namespace Json

/-! ### Numbers -/

theorem oneLine_exponentText (e : Int) : OneLine (exponentText e) := by
  refine .append (.append (by decide) ?_) (.of_int e)
  split <;> decide

theorem oneLine_decimalText (d : Decimal) : OneLine (decimalText d) := by
  have hdigits : OneLine (toString d.digits) := .of_digits d.digits
  have hzeros : ∀ n : Nat, OneLine (String.ofList (List.replicate n '0')) := .of_replicate_zero
  have hpoint : OneLine "." := by decide
  unfold decimalText
  dsimp only
  split
  · exact (hdigits.append (hzeros _)).append (by decide)
  · split
    · exact ((hdigits.take _).append hpoint).append (hdigits.drop _)
    · split
      · exact (OneLine.append (by decide) (hzeros _)).append hdigits
      · split
        · exact hdigits.append (oneLine_exponentText _)
        · exact (((hdigits.take _).append hpoint).append (hdigits.drop _)).append
            (oneLine_exponentText _)

theorem oneLine_floatText (x : Binary64) : OneLine (floatText x) := by
  refine .append ?_ (oneLine_decimalText x.shortest)
  split <;> decide

/-! ### Strings -/

/-- The hexadecimal digits of a control character are on one line. -/
theorem oneLine_hex : ∀ n < 0x20, OneLine (Text.hex n) := by
  unfold OneLine
  decide

/-- **A line end inside a string is escaped.** -/
theorem oneLine_quoteChar (c : Char) : OneLine (quoteChar c) := by
  unfold quoteChar
  split
  case h_8 hend _ _ =>
    split
    next hlow => exact .append (by decide) (oneLine_hex _ (Nat.lt_trans hlow (by decide)))
    next =>
      split
      next hlow => exact .append (by decide) (oneLine_hex _ hlow)
      next =>
        change '\n' ∉ (String.singleton c).toList
        rw [String.toList_singleton, List.mem_singleton]
        exact fun heq => hend heq.symm
  all_goals decide

theorem oneLine_quote (s : String) : OneLine (quote s) := by
  have hchars : OneLine (String.join (s.toList.map quoteChar)) := by
    refine .join fun t ht => ?_
    obtain ⟨c, -, rfl⟩ := List.mem_map.1 ht
    exact oneLine_quoteChar c
  exact (OneLine.append (by decide) hchars).append (by decide)

/-! ### Values -/

mutual

/-- **A value is printed on one line.** -/
theorem oneLine_render : (j : Json) → OneLine j.render
  | .null => by decide
  | .bool true => by decide
  | .bool false => by decide
  | .int n => .of_int n
  | .float x => oneLine_floatText x
  | .str s => oneLine_quote s
  | .arr [] => by decide
  | .arr (j :: js) =>
    ((OneLine.append (by decide) (oneLine_render j)).append (oneLine_renderItems js)).append
      (by decide)
  | .obj [] => by decide
  | .obj ((n, j) :: fs) =>
    ((((OneLine.append (by decide) (oneLine_quote n)).append (by decide)).append
      (oneLine_render j)).append (oneLine_renderFields fs)).append (by decide)

theorem oneLine_renderItems : (js : List Json) → OneLine (renderItems js)
  | [] => by decide
  | j :: js => (OneLine.append (by decide) (oneLine_render j)).append (oneLine_renderItems js)

theorem oneLine_renderFields : (fs : List (String × Json)) → OneLine (renderFields fs)
  | [] => by decide
  | (n, j) :: fs =>
    (((OneLine.append (by decide) (oneLine_quote n)).append (by decide)).append
      (oneLine_render j)).append (oneLine_renderFields fs)

end

theorem oneLine_renderRecord : (fs : List (String × Json)) → OneLine (renderRecord fs)
  | [] => by decide
  | (n, j) :: fs =>
    ((((OneLine.append (by decide) (oneLine_quote n)).append (by decide)).append
      (oneLine_render j)).append (oneLine_renderFields fs)).append (by decide)

end Json

/-- A stored event is printed on one line, whatever texts it holds. -/
theorem CommittedEvent.oneLine_line (e : CommittedEvent) : OneLine e.line :=
  Json.oneLine_renderRecord e.fields

end EventLedger
