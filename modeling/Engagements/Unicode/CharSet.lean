/-!
Sets of characters as spans of code points, the algebra of such sets, and the text in which tables
of them are written.
-/
namespace Engagements.Unicode

/-- The code points from `first` to `last`. -/
structure Span where
  first : Nat
  last : Nat
  deriving DecidableEq, Repr

/-- A set of characters by its spans, which ascend and do not touch each other. -/
structure CharSet where
  spans : List Span
  deriving DecidableEq, Repr

namespace Span

def contains (span : Span) (c : Char) : Bool := span.first ≤ c.toNat && c.toNat ≤ span.last

/-- Joins a span with those after it that overlap or touch it. -/
def joinFrom (span : Span) : List Span → List Span
  | [] => [span]
  | next :: spans =>
    if next.first ≤ span.last + 1 then joinFrom ⟨span.first, max span.last next.last⟩ spans
    else span :: joinFrom next spans

def join : List Span → List Span
  | [] => []
  | span :: spans => joinFrom span spans

/-- The last code point. -/
def top : Nat := 0x10FFFF

/-- What lies between spans, from a code point on. -/
def gapsFrom (start : Nat) : List Span → List Span
  | [] => if start ≤ top then [⟨start, top⟩] else []
  | span :: spans =>
    let rest := gapsFrom (max start (span.last + 1)) spans
    if start < span.first then ⟨start, span.first - 1⟩ :: rest else rest

end Span

namespace CharSet

def empty : CharSet := ⟨[]⟩

/-- The set of all characters in some spans, in any order. -/
def ofSpans (spans : List Span) : CharSet :=
  ⟨Span.join (spans.mergeSort fun left right => left.first ≤ right.first)⟩

def range (first last : Nat) : CharSet := ⟨[⟨first, last⟩]⟩

def single (c : Char) : CharSet := range c.toNat c.toNat

def ofChars (chars : List Char) : CharSet := ofSpans (chars.map fun c => ⟨c.toNat, c.toNat⟩)

def contains (set : CharSet) (c : Char) : Bool := set.spans.any (·.contains c)

def isEmpty (set : CharSet) : Bool := set.spans.isEmpty

/-- Whether all characters of a set are ASCII. -/
def isAscii (set : CharSet) : Bool := set.spans.all fun span => span.last < 128

def union (left right : CharSet) : CharSet :=
  if left.isEmpty then right else if right.isEmpty then left
  else ofSpans (left.spans ++ right.spans)

def unionOf (sets : List CharSet) : CharSet := ofSpans (sets.flatMap spans)

/-- Code points that are halves of a pair and no characters. -/
def surrogates : Span := ⟨0xD800, 0xDFFF⟩

/-- All characters that a set does not have. -/
def complement (set : CharSet) : CharSet :=
  ⟨Span.gapsFrom 0 (ofSpans (surrogates :: set.spans)).spans⟩

def all : CharSet := complement empty

def ascii : CharSet := range 0 127

def intersection (left right : CharSet) : CharSet :=
  complement (union (complement left) (complement right))

def difference (left right : CharSet) : CharSet :=
  complement (union (complement left) right)

def symmetricDifference (left right : CharSet) : CharSet :=
  union (difference left right) (difference right left)

def hexDigit (c : Char) : Nat :=
  if c.isDigit then c.toNat - '0'.toNat else c.toNat + 10 - 'A'.toNat

def readHex (digits : List Char) : Nat :=
  digits.foldl (fun value digit => 16 * value + hexDigit digit) 0

def splitWords : List Char → List (List Char)
  | [] => [[]]
  | c :: rest =>
    if c = ' ' || c = '\n' then [] :: splitWords rest
    else
      match splitWords rest with
      | [] => [[c]]
      | word :: words => (c :: word) :: words

/-- The words of a text between blanks and line ends. -/
def words (text : String) : List (List Char) := (splitWords text.toList).filter (· ≠ [])

/-- Code points from `first` to `last`, a number of steps apart. -/
def stepped (first last step : Nat) : List Span :=
  (List.range ((last - first) / step + 1)).map fun i => ⟨first + i * step, first + i * step⟩

/-- Reads `first`, `first-last` or `first-last/step`, in hexadecimal. -/
def readWord (word : List Char) : List Span :=
  let isDigit (c : Char) : Bool := c != '-' && c != '/'
  let first := readHex (word.takeWhile isDigit)
  match word.dropWhile isDigit with
  | [] => [⟨first, first⟩]
  | _ :: rest =>
    let last := readHex (rest.takeWhile isDigit)
    match rest.dropWhile isDigit with
    | [] => [⟨first, last⟩]
    | _ :: step => stepped first last (readHex step)

/-- Reads words that are separated by blanks. -/
def read (text : String) : CharSet := ofSpans ((words text).flatMap readWord)

end CharSet

end Engagements.Unicode
