import Engagements.Unicode.CharSet

/-!
Characters as one to four bytes, and sets of characters as sequences of spans of bytes.
-/
namespace Engagements.Unicode

/-- The bytes of a code point. -/
def encode (code : Nat) : List Nat :=
  if code < 0x80 then [code]
  else if code < 0x800 then [0xC0 + code / 64, 0x80 + code % 64]
  else if code < 0x10000 then [0xE0 + code / 4096, 0x80 + code / 64 % 64, 0x80 + code % 64]
  else [0xF0 + code / 262144, 0x80 + code / 4096 % 64, 0x80 + code / 64 % 64, 0x80 + code % 64]

/-- How many bytes a text has. -/
def encodedLength (text : List Char) : Nat :=
  text.foldl (fun length c => length + (encode c.toNat).length) 0

/-- The bytes that may stand at each place. -/
abbrev ByteSpans := List Span

namespace Span

/-- The part of a span between two code points. -/
def within (span : Span) (first last : Nat) : List Span :=
  let first := max span.first first
  let last := min span.last last
  if first ≤ last then [⟨first, last⟩] else []

/-- Characters of one length each. -/
def byLength (span : Span) : List Span :=
  span.within 0 0x7F ++ span.within 0x80 0x7FF ++ span.within 0x800 0xD7FF ++
    span.within 0xE000 0xFFFF ++ span.within 0x10000 top

/-- Splits a span that reaches over several blocks into whole blocks, and what lies before and
after them. -/
def byBlock (size : Nat) (span : Span) : List Span :=
  if span.first / size = span.last / size then [span]
  else
    let start := (span.first + size - 1) / size * size
    let stop := (span.last + 1) / size * size
    let within (first stop : Nat) : List Span :=
      if first < stop then [⟨first, stop - 1⟩] else []
    within span.first start ++ within start stop ++ within stop (span.last + 1)

/-- What lies in blocks of each size has independent bytes. -/
def byteSpans (span : Span) : List ByteSpans :=
  let blocks :=
    ((span.byLength.flatMap (byBlock 64)).flatMap (byBlock 4096)).flatMap (byBlock 262144)
  blocks.map fun block => List.zipWith Span.mk (encode block.first) (encode block.last)

end Span

/-- The sequences of bytes of all characters of a set, in ascending order. -/
def CharSet.byteSpans (set : CharSet) : List ByteSpans := set.spans.flatMap Span.byteSpans

end Engagements.Unicode
