import Engagements.Proofs.Text
import Engagements.Search.Component
import Mathlib.Algebra.Ring.Parity
import Mathlib.Data.List.DropRight

/-!
How a search text falls into pieces. Pieces that end outside of an escape can be put together and
taken apart again; whether a character is escaped depends on the number of backslashes before it.
-/
namespace Engagements.Search

/-- Whether a text ends in an escape: after a backslash that is not escaped itself. -/
def endsEscaped : Bool → List Char → Bool
  | escaped, [] => escaped
  | escaped, c :: rest => endsEscaped (!escaped && c == '\\') rest

/-- How many backslashes stand at the end of a text. -/
def backslashesAtEnd (text : List Char) : Nat := (text.rtakeWhile (· == '\\')).length

theorem endsEscaped_append (escaped : Bool) (front back : List Char) :
    endsEscaped escaped (front ++ back) = endsEscaped (endsEscaped escaped front) back := by
  induction front generalizing escaped with
  | nil => rfl
  | cons c front ih => exact ih _

theorem endsEscaped_iff_odd (text : List Char) :
    endsEscaped false text = true ↔ Odd (backslashesAtEnd text) := by
  induction text using List.reverseRecOn with
  | nil => decide
  | append_singleton front c ih =>
      rw [endsEscaped_append, backslashesAtEnd, List.rtakeWhile_concat]
      by_cases slash : c = '\\'
      · subst slash
        rw [if_pos (beq_self_eq_true _), List.length_append, List.length_singleton,
          Nat.odd_add_one, ← backslashesAtEnd, ← ih]
        simp [endsEscaped]
      · simp [endsEscaped, slash]

theorem endsEscaped_eq_false_iff (text : List Char) :
    endsEscaped false text = false ↔ Even (backslashesAtEnd text) := by
  rw [← Bool.not_eq_true, endsEscaped_iff_odd, Nat.not_odd_iff_even]

/-! Pieces between separators. -/

variable {separator : Char}

theorem splitUnescapedChars_ne_nil (escaped : Bool) (text : List Char) :
    splitUnescapedChars separator escaped text ≠ [] := by
  cases text with
  | nil => exact List.cons_ne_nil _ _
  | cons c rest =>
      rw [splitUnescapedChars]
      split
      · exact List.cons_ne_nil _ _
      · split <;> exact List.cons_ne_nil _ _

/-- A separator behind a text that does not end in an escape separates. -/
theorem splitUnescapedChars_append (visible : separator ≠ '\\') {escaped : Bool}
    {front : List Char} (settled : endsEscaped escaped front = false) (back : List Char) :
    splitUnescapedChars separator escaped (front ++ separator :: back) =
      splitUnescapedChars separator escaped front ++ splitUnescapedChars separator false back := by
  induction front generalizing escaped with
  | nil =>
      have unescaped : escaped = false := settled
      subst unescaped
      simp [splitUnescapedChars]
  | cons c front ih =>
      rw [endsEscaped] at settled
      rw [List.cons_append, splitUnescapedChars, splitUnescapedChars]
      by_cases separates : (!escaped && decide (c = separator)) = true
      · have same : c = separator := by simpa using (Bool.and_eq_true_iff.mp separates).2
        have next : (!escaped && c == '\\') = false := by simp [same, visible]
        rw [next] at settled
        rw [if_pos separates, if_pos separates, ih settled, List.cons_append]
      · rw [if_neg separates, if_neg separates, ih settled]
        cases split : splitUnescapedChars separator (!escaped && c == '\\') front with
        | nil => exact absurd split (splitUnescapedChars_ne_nil _ _)
        | cons piece pieces => rfl

/-! Texts put together from components. -/

/-- The components of a search text, joined by ampersands. -/
def joined (components : List String) : String := "&".intercalate components

/-- A component that is taken as one piece wherever it stands, since it neither has an ampersand
outside of an escape nor hides the one behind it. -/
structure Whole (component : String) : Prop where
  single : splitUnescaped '&' component = [component]
  settled : endsEscaped false component.toList = false

theorem splitUnescaped_cons {component : String} (whole : Whole component) {others : List String}
    (more : others ≠ []) :
    splitUnescaped '&' (joined (component :: others)) =
      component :: splitUnescaped '&' (joined others) := by
  obtain ⟨next, others, split⟩ := List.exists_cons_of_ne_nil more
  subst split
  have chars : (joined (component :: next :: others)).toList =
      component.toList ++ '&' :: (joined (next :: others)).toList := by
    simp [joined, String.toList_intercalate]
  rw [splitUnescaped, chars, splitUnescapedChars_append (by decide) whole.settled,
    List.map_append, ← splitUnescaped, whole.single]
  rfl

/-- Components are what a text is split into that they are joined to; the last one may end in an
escape. -/
theorem splitUnescaped_joined {components : List String} {last : String}
    (whole : ∀ component ∈ components, Whole component)
    (single : splitUnescaped '&' last = [last]) :
    splitUnescaped '&' (joined (components ++ [last])) = components ++ [last] := by
  induction components with
  | nil => simpa [joined] using single
  | cons component components ih =>
      obtain ⟨first, rest⟩ := List.forall_mem_cons.mp whole
      rw [List.cons_append, splitUnescaped_cons first (by simp), ih rest]

end Engagements.Search
