import Engagements.Proofs.Regex.Literal

/-!
Room for patterns of texts. Folding moves no character that stands before the letters, so a text of
such characters is laid out as it is, with one state for each of its bytes.
-/
namespace Engagements

namespace Unicode

/-! Characters that have no other case. -/

theorem Shift.readAll_of_chars {text : String} {chars : List Char}
    (same : text = String.ofList chars) :
    Shift.readAll text = ((CharSet.splitWords chars).filter (· ≠ [])).map Shift.read := by
  rw [Shift.readAll, CharSet.words, same, String.toList_ofList]

set_option maxRecDepth 30000 in
theorem letters_foldShifts : ∀ shift ∈ foldShifts,
    'A'.toNat ≤ shift.first ∧ ('A'.toNat : Int) ≤ shift.first + shift.distance := by
  rw [foldShifts, Shift.readAll_of_chars rfl]
  decide +kernel

theorem letters_foldMoves : ∀ move ∈ foldMoves, 'A'.toNat ≤ move.1 ∧ 'A'.toNat ≤ move.2 := by
  intro move member
  obtain ⟨shift, listed, member⟩ := List.mem_flatMap.mp member
  obtain ⟨first, target⟩ := letters_foldShifts shift listed
  simp only [Shift.moves, CharSet.stepped, List.map_map, List.mem_map] at member
  obtain ⟨steps, _, rfl⟩ := member
  simp only [Function.comp_apply]
  omega

theorem letters_unfoldMoves : ∀ move ∈ unfoldMoves, 'A'.toNat ≤ move.1 := by
  intro move member
  rw [unfoldMoves, List.mem_mergeSort, List.mem_map] at member
  obtain ⟨⟨origin, target⟩, member, rfl⟩ := member
  exact (letters_foldMoves _ member).2

theorem CharSet.reached_of_before {spans : List Span} {moves : List (Nat × Nat)}
    (before : ∀ span ∈ spans, ∀ move ∈ moves, span.last < move.1) :
    CharSet.reached spans moves = [] := by
  cases moves with
  | nil => cases spans <;> simp [CharSet.reached]
  | cons move moves =>
      induction spans with
      | nil => rw [CharSet.reached]
      | cons span spans ih =>
          rw [CharSet.reached, if_pos (before span List.mem_cons_self move List.mem_cons_self)]
          exact ih fun other member => before other (List.mem_cons_of_mem span member)

theorem CharSet.closeCase_single {c : Char} (early : c.toNat < 'A'.toNat) :
    (CharSet.single c).closeCase = CharSet.single c := by
  have single : CharSet.ofSpans (CharSet.single c).spans = CharSet.single c := by
    rw [CharSet.ofSpans, CharSet.single, CharSet.range, List.mergeSort_singleton]
    rfl
  have unmoved {moves : List (Nat × Nat)} (late : ∀ move ∈ moves, 'A'.toNat ≤ move.1) :
      CharSet.reached (CharSet.single c).spans moves = [] := by
    refine CharSet.reached_of_before fun span member move moved => ?_
    rw [List.mem_singleton.mp member]
    exact Nat.lt_of_lt_of_le early (late move moved)
  rw [CharSet.closeCase, unmoved fun move moved => (letters_foldMoves move moved).1,
    List.append_nil, single, unmoved letters_unfoldMoves, List.append_nil, single]

theorem foldCase_of_early {c : Char} (early : c.toNat < 'A'.toNat) : foldCase c = c := by
  have ascii : c.toNat < 128 := Nat.lt_trans early (by decide)
  have other : ¬(c.val ≥ 'A'.val ∧ c.val ≤ 'Z'.val) :=
    fun ⟨late, _⟩ => Nat.not_lt.mpr (UInt32.le_iff_toNat_le.mp late) early
  exact (if_pos ascii).trans (dif_neg other)

end Unicode

namespace Regex

open Unicode (CharSet)

/-! How a text is laid out. -/

theorem choicesOf_folded {key : Char} (early : key.toNat < 'A'.toNat) :
    Layout.choicesOf (folded key) = [.text [key]] := by
  rw [Layout.choicesOf, CharSet.closeCase_single early]
  simp [Layout.ofSet, CharSet.single, CharSet.range, Char.ofNat_toNat]

theorem choicesOf_inOrder {keys : List Char} (some : keys ≠ [])
    (early : ∀ key ∈ keys, key.toNat < 'A'.toNat) :
    Layout.choicesOf (inOrder (keys.map folded)) = [.text keys] := by
  induction keys with
  | nil => exact absurd rfl some
  | cons key keys ih =>
      have first := choicesOf_folded (early key List.mem_cons_self)
      cases keys with
      | nil => exact first
      | cons second keys =>
          have rest := ih (List.cons_ne_nil second keys) fun other member =>
            early other (List.mem_cons_of_mem key member)
          rw [List.map_cons, inOrder_cons (by simp), Layout.choicesOf, first, rest]
          rfl

theorem encodedLength_of_early {text : List Char} (early : ∀ c ∈ text, c.toNat < 'A'.toNat) :
    Unicode.encodedLength text = text.length := by
  have single : ∀ c ∈ text, (Unicode.encode c.toNat).length = 1 := by
    intro c member
    have ascii : c.toNat < 0x80 := Nat.lt_trans (early c member) (by decide)
    rw [Unicode.encode, if_pos ascii, List.length_singleton]
  have counted (length : Nat) :
      text.foldl (fun length c => length + (Unicode.encode c.toNat).length) length =
        length + text.length := by
    clear early
    induction text generalizing length with
    | nil => rfl
    | cons c text ih =>
        rw [List.foldl_cons, ih (fun other member => single other (List.mem_cons_of_mem c member)),
          single c List.mem_cons_self, List.length_cons]
        omega
  rw [Unicode.encodedLength, counted, Nat.zero_add]

/-- A length at which there is room for a text of one byte each character. -/
def roomyLength : Nat := 327000

theorem fits_inOrder {keys : List Char} (early : ∀ key ∈ keys, key.toNat < 'A'.toNat)
    (short : keys.length ≤ roomyLength) : fits (inOrder (keys.map folded)) = true := by
  cases keys with
  | nil => decide
  | cons key keys =>
      have laid : Layout.ofRegex (inOrder ((key :: keys).map folded)) = .text (key :: keys) := by
        rw [Layout.ofRegex, choicesOf_inOrder (List.cons_ne_nil key keys) early]
        rfl
      have bytes := encodedLength_of_early early
      rw [List.length_cons, roomyLength] at short
      simp only [fits, laid, Room.forward, Room.placeBackward, Room.Position.finish, bytes,
        Room.Placed.addMany, Room.Placed.add, Room.choice, Room.state, Room.branching,
        Room.reading, Room.limit, List.length_cons, Bool.and_eq_true, decide_eq_true_eq,
        Bool.false_eq_true, if_false]
      omega

end Regex

/-- A text of digits and signs is read as a pattern unless it is very long. -/
theorem Pattern.fits_of_early {text : String}
    (early : (text.toList.all fun c => c.toNat < 'A'.toNat) = true)
    (short : text.toList.length ≤ Regex.roomyLength) : Pattern.Fits text := by
  have early : ∀ c ∈ text.toList, c.toNat < 'A'.toNat :=
    fun c member => of_decide_eq_true (List.all_eq_true.mp early c member)
  have kept : text.toList.map Unicode.foldCase = text.toList := by
    refine (List.map_congr_left fun c member => ?_).trans (List.map_id _)
    exact Unicode.foldCase_of_early (early c member)
  rw [Pattern.Fits, Pattern.read?, Regex.read?, Regex.parse?_literal, kept, Option.filter_some,
    if_pos (Regex.fits_inOrder early short)]
  rfl

end Engagements
