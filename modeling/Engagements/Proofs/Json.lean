import Engagements.Json.Printer
import Mathlib.Data.List.Infix

/-!
The JSON text of a string tells which string it is.
-/
namespace Engagements.Json

/-- The characters that are not written as they are. -/
def escaped : List Char := '"' :: '\\' :: (List.range 32).map Char.ofNat

theorem charText_of_not_mem {c : Char} (plain : c ∉ escaped) : charText c = [c] := by
  have visible : 32 ≤ c.toNat := by
    by_contra control
    have member : c.toNat ∈ List.range 32 := List.mem_range.mpr (Nat.not_le.mp control)
    have known : Char.ofNat c.toNat ∈ (List.range 32).map Char.ofNat := List.mem_map_of_mem member
    rw [Char.ofNat_toNat] at known
    exact plain (List.mem_cons_of_mem _ (List.mem_cons_of_mem _ known))
  unfold charText
  split
  case h_6 => rw [if_neg (by omega), if_neg (by omega), if_neg (by omega)]
  all_goals exact absurd (by decide) plain

theorem head?_charText_of_mem {c : Char} (member : c ∈ escaped) :
    (charText c).head? = some '\\' := by
  have all : (escaped.all fun c => (charText c).head? == some '\\') = true := by decide +kernel
  exact beq_iff_eq.mp (List.all_eq_true.mp all c member)

theorem eq_of_escaped_begins {c d : Char} (first : c ∈ escaped) (second : d ∈ escaped)
    (begins : charText c <+: charText d) : c = d := by
  have all : (escaped.all fun c => escaped.all fun d =>
      !(charText c).isPrefixOf (charText d) || c == d) = true := by
    decide +kernel
  have pair := List.all_eq_true.mp (List.all_eq_true.mp all c first) d second
  simpa [List.isPrefixOf_iff_prefix.mpr begins] using pair

/-- No text of a character begins with the text of another one. -/
theorem eq_of_charText_begins {c d : Char} (begins : charText c <+: charText d) : c = d := by
  have slash : '\\' ∈ escaped := by decide
  by_cases first : c ∈ escaped
  · by_cases second : d ∈ escaped
    · exact eq_of_escaped_begins first second begins
    · rw [charText_of_not_mem second] at begins
      have member := begins.subset (List.mem_of_mem_head? (head?_charText_of_mem first))
      exact absurd (List.mem_singleton.mp member ▸ slash) second
  · rw [charText_of_not_mem first] at begins
    by_cases second : d ∈ escaped
    · obtain ⟨rest, split⟩ := begins
      have head := head?_charText_of_mem second
      rw [← split, List.singleton_append, List.head?_cons] at head
      exact absurd (Option.some.inj head ▸ slash) first
    · rw [charText_of_not_mem second] at begins
      exact List.mem_singleton.mp (begins.subset (List.mem_singleton_self c))

theorem charText_ne_nil (c : Char) : charText c ≠ [] := by
  by_cases first : c ∈ escaped
  · intro none
    have head := head?_charText_of_mem first
    rw [none] at head
    cases head
  · simp [charText_of_not_mem first]

theorem head?_charText_ne (c : Char) : (charText c).head? ≠ some '"' := by
  by_cases special : c ∈ escaped
  · rw [head?_charText_of_mem special]
    decide
  · rw [charText_of_not_mem special]
    intro quote
    obtain rfl := Option.some.inj quote
    exact special (by decide)

/-- The text of characters ends at the first quotation mark that is not escaped. -/
theorem eq_of_flatMap_charText {text other rest rest' : List Char}
    (same : text.flatMap charText ++ '"' :: rest = other.flatMap charText ++ '"' :: rest') :
    text = other ∧ rest = rest' := by
  have quoted : ∀ {c : Char} {tail : List Char} {rest rest' : List Char},
      '"' :: rest ≠ charText c ++ tail ++ rest' := by
    intro c tail rest rest' same
    obtain ⟨first, others, split⟩ := List.exists_cons_of_ne_nil (charText_ne_nil c)
    have head := head?_charText_ne c
    rw [split] at same head
    exact head (congrArg some (List.cons.inj same).1.symm)
  induction text generalizing other with
  | nil =>
      cases other with
      | nil => exact ⟨rfl, (List.cons.inj same).2⟩
      | cons d other => exact absurd same quoted
  | cons c text ih =>
      cases other with
      | nil => exact absurd same.symm quoted
      | cons d other =>
          rw [List.flatMap_cons, List.flatMap_cons, List.append_assoc, List.append_assoc] at same
          have first : c = d := by
            have begins : charText c <+: charText d ++ (other.flatMap charText ++ '"' :: rest') :=
              ⟨text.flatMap charText ++ '"' :: rest, same⟩
            rcases List.prefix_or_prefix_of_prefix begins (List.prefix_append _ _) with one | two
            · exact eq_of_charText_begins one
            · exact (eq_of_charText_begins two).symm
          subst first
          obtain ⟨rfl, rest⟩ := ih (List.append_cancel_left same)
          exact ⟨rfl, rest⟩

theorem eq_of_stringText {text other : String} {rest rest' : List Char}
    (same : stringText text ++ rest = stringText other ++ rest') : text = other ∧ rest = rest' := by
  have inner : text.toList.flatMap charText ++ '"' :: rest =
      other.toList.flatMap charText ++ '"' :: rest' := by
    simpa [stringText] using same
  obtain ⟨chars, rest⟩ := eq_of_flatMap_charText inner
  exact ⟨String.toList_inj.mp chars, rest⟩

end Engagements.Json
