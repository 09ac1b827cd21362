import Engagements.Proofs.Path
import Mathlib.Order.Defs.Unbundled

/-!
Paths under other paths. The test by bytes and that by segments come to the same, and order the
paths.
-/
namespace Engagements

namespace Text

/-- The bytes of a text. -/
def bytes (text : String) : List UInt8 := text.toByteArray.data.toList

theorem bytes_append (front back : String) : bytes (front ++ back) = bytes front ++ bytes back := by
  rw [bytes, String.toByteArray_append, ByteArray.toList_data_append]
  rfl

/-- No character goes over the end of a text that a longer one begins with, byte by byte. -/
theorem bytes_prefix_iff (front text : String) :
    bytes front <+: bytes text ↔ front.toList <+: text.toList := by
  constructor
  · rintro ⟨rest, split⟩
    apply List.isPrefix_of_utf8Encode_append_eq_utf8Encode rest.toByteArray
    rw [String.utf8Encode_toList, String.utf8Encode_toList]
    apply ByteArray.ext
    apply Array.toList_inj.mp
    rw [ByteArray.toList_data_append, List.toList_data_toByteArray]
    exact split
  · rintro ⟨rest, split⟩
    have joined : front ++ String.ofList rest = text := by
      rw [← String.toList_inj, String.toList_append, String.toList_ofList, split]
    refine ⟨bytes (String.ofList rest), ?_⟩
    calc bytes front ++ bytes (String.ofList rest) = bytes (front ++ String.ofList rest) :=
          (bytes_append _ _).symm
      _ = bytes text := by rw [joined]

theorem concat_prefix_iff {α : Type} {front text : List α} {next : α} :
    front ++ [next] <+: text ↔ front <+: text ∧ text[front.length]? = some next := by
  constructor
  · rintro ⟨rest, rfl⟩
    exact ⟨⟨next :: rest, by simp⟩, by simp⟩
  · rintro ⟨⟨rest, rfl⟩, there⟩
    cases rest with
    | nil => simp at there
    | cons c rest =>
        obtain rfl : c = next := by simpa using there
        exact ⟨rest, by simp⟩

end Text

/-- Byte by byte, a path is another one, or begins with it and has a dot right after it. -/
theorem isUnder_iff_bytes (path container : String) :
    isUnder path container = true ↔
      path = container ∨ Text.bytes container <+: Text.bytes path ∧
        (Text.bytes path)[(Text.bytes container).length]? = some '.'.toUInt8 := by
  have dotted : Text.bytes (container ++ ".") = Text.bytes container ++ ['.'.toUInt8] :=
    Text.bytes_append container "."
  have chars : (container ++ ".").toList = container.toList ++ ['.'] := String.toList_append
  rw [← Text.concat_prefix_iff, ← dotted, Text.bytes_prefix_iff, chars, isUnder, Bool.or_eq_true,
    beq_iff_eq, List.isPrefixOf_iff_prefix]

/-- Paths are ordered by what they lie under. -/
theorem isPartialOrder_isUnder :
    IsPartialOrder String fun path container => isUnder path container = true where
  refl path := (isUnder_iff_segments path path).mpr List.prefix_rfl
  trans path middle container below above := by
    rw [isUnder_iff_segments] at *
    exact above.trans below
  antisymm path other below above := by
    rw [isUnder_iff_segments] at *
    exact segments_injective (above.eq_of_length_le below.length_le)

end Engagements
