import Engagements.Regex.Layout
import Engagements.Regex.Reader
import Engagements.Unicode.Encoding
import Std.Data.HashMap

/-!
How much room an expression takes when it is laid out for matching over bytes, forwards and
backwards, and the patterns that take no more than there is.
-/
namespace Engagements.Regex

open Unicode (CharSet ByteSpans Span)

namespace Room

/-- The bytes of a state by itself. -/
def state : Nat := 32

/-- A state that reads one of several spans of bytes. -/
def reading (spans : Nat) : Nat := state + 8 * spans

/-- A state that goes on to one of several states. -/
def branching (states : Nat) : Nat := state + 4 * states

/-- Ten megabytes. -/
def limit : Nat := 10485760

/-- How many states there are, and the bytes they take. -/
structure Placed where
  states : Nat
  bytes : Nat

namespace Placed

def add (placed : Placed) (bytes : Nat) : Placed := ⟨placed.states + 1, placed.bytes + bytes⟩

def addMany (placed : Placed) (count bytes : Nat) : Placed :=
  ⟨placed.states + count, placed.bytes + count * bytes⟩

/-- Places something a number of times, until there is no room. -/
def times (step : Placed → Placed) : Nat → Placed → Placed
  | 0, placed => placed
  | count + 1, placed => if limit < placed.bytes then placed else times step count (step placed)

end Placed

/-! ## Choices between words -/

/-- Splits a list of words where one is empty, in chunks of words that are not. -/
def chunks : List (List Nat) → List (List (List Nat))
  | [] => [[]]
  | [] :: words => [] :: chunks words
  | word :: words =>
    match chunks words with
    | [] => [[word]]
    | chunk :: chunks => (word :: chunk) :: chunks

/-- The words after each of their first bytes. -/
def branches (words : List (List Nat)) : List (List (List Nat)) :=
  (words.filterMap List.head?).eraseDups.map fun first =>
    (words.filter fun word => word.head? = some first).map List.tail

/-- Places a choice between words of bytes, each shorter than the fuel. The words share their
beginnings, except over the end of a word that another one continues. -/
def placeWords : Nat → List (List Nat) → Placed → Placed
  | 0, _, placed => placed
  | fuel + 1, words, placed =>
    if words.all (· = []) then placed
    else
      let leading := (words.takeWhile (· = [])).length
      let ends := (words.filter (· = [])).length - (leading - 1)
      let chunks := (chunks words).filter (· ≠ [])
      let placed := placed.add (branching (chunks.length + ends))
      chunks.foldl (fun placed chunk =>
        let branches := branches chunk
        let room := if branches.length = 1 then state else reading branches.length
        branches.foldl (fun placed rest => placeWords fuel rest placed) (placed.add room)) placed

/-- Places a choice between texts. -/
def placeTexts (backward : Bool) (texts : List (List Char)) (placed : Placed) : Placed :=
  let words := texts.map fun text =>
    let bytes := text.flatMap fun c => Unicode.encode c.toNat
    if backward then bytes.reverse else bytes
  let longest := words.foldl (fun most word => max most word.length) 0
  placeWords (longest + 1) words (placed.add state)

def text? : Layout → Option (List Char)
  | .text chars => some chars
  | _ => none

/-- The texts that a layout is a choice between, if it is one. -/
def textChoices? (layout : Layout) : Option (List (List Char)) := layout.choices.mapM text?

/-- The length of the shortest text that a layout matches, if it matches any. -/
def shortest? : Layout → Option Nat
  | .empty | .look _ => some 0
  | .text chars => some chars.length
  | .set set => if set.isEmpty then none else some 1
  | .group _ body => shortest? body
  | .repeated body least _ => (shortest? body).map (· * least)
  | .sequence first second =>
    match shortest? first, shortest? second with
    | some first, some second => some (first + second)
    | _, _ => none
  | .either left right =>
    match shortest? left, shortest? right with
    | some left, some right => some (min left right)
    | _, _ => none

/-- Whether each match of a layout reads something. -/
def reads (layout : Layout) : Bool := (shortest? layout).any (0 < ·)

/-! ## Forwards -/

/-- Sequences that begin with the same span, without it. -/
def afterFirst (sequences : List ByteSpans) : List (List ByteSpans) :=
  (sequences.splitBy fun left right => left.head? == right.head?).map fun group =>
    group.map List.tail

/-- What may still follow after each count of bytes. -/
def following (sequences : List ByteSpans) : Nat → List (List ByteSpans)
  | 0 => [sequences]
  | count + 1 =>
    ((following sequences count).flatMap afterFirst).filter fun rest => rest.any (· ≠ [])

/-- Forwards there is a state for the end of a set, and one for each rest that may follow. -/
def setForward (set : CharSet) : Nat :=
  if set.isAscii then state + reading set.spans.length
  else
    let rests := ((List.range 4).flatMap (following set.byteSpans)).eraseDups
    rests.foldl (fun room rest => room + reading (afterFirst rest).length) state

/-- The room of a repetition of what takes some room itself. -/
def repeatedForward (reads : Bool) (body least : Nat) : Option Nat → Nat
  | none =>
    if least = 0 then body + if reads then branching 2 else 2 * branching 2 + state
    else least * body + branching 2
  | some most =>
    if least = most then least * body
    else if least = 0 && most = 1 then body + branching 2 + state
    else
      (if least = 0 then state else least * body) + state +
        (most - least) * (body + branching 2)

/-- The place of a choice among the states that a choice goes on to. -/
def choice (isChoice : Bool) : Nat := if isChoice then 4 else 0

/-- The room of a layout by itself, or as one choice or the rest of several. -/
def forward : (isChoice : Bool) → Layout → Nat
  | isChoice, .empty | isChoice, .look _ => choice isChoice + state
  | isChoice, .text chars => choice isChoice + state * Unicode.encodedLength chars
  | isChoice, .set set => choice isChoice + setForward set
  | isChoice, .group _ body => choice isChoice + forward false body + 2 * state
  | isChoice, .repeated body least most =>
    choice isChoice + repeatedForward (reads body) (forward false body) least most
  | isChoice, .sequence first second =>
    choice isChoice + forward false first + forward false second
  | true, .either left right => forward true left + forward true right
  | false, .either left right =>
    match textChoices? (.either left right) with
    | some texts => (placeTexts false texts ⟨0, 0⟩).bytes
    | none => branching 0 + state + forward true left + forward true right

/-! ## Backwards -/

/-- A state that reads a span of bytes and goes on to a target. -/
structure Reading where
  target : Nat
  span : Span
  deriving DecidableEq

/-- How many states are remembered at most. -/
def slots : Nat := 1000

/-- The place where a state is remembered, which others may claim. -/
def Reading.slot (reading : Reading) : Nat :=
  let mix (hash : UInt64) (value : Nat) : UInt64 := (hash.xor value.toUInt64) * 1099511628211
  let hash := mix (mix (mix 14695981039346656037 reading.target) reading.span.first)
    reading.span.last
  hash.toNat % slots

/-- The states that are remembered by their slots. -/
abbrev Memory := Std.HashMap Nat (Reading × Nat)

/-- Places the states of a sequence from its first byte on; a state that is remembered is not
placed again. -/
def placeSequence (target : Nat) (placed : Placed) (memory : Memory) :
    ByteSpans → Placed × Memory
  | [] => (placed, memory)
  | span :: spans =>
    let reading : Reading := ⟨target, span⟩
    let known := (memory[reading.slot]?).filter fun known => known.1 = reading
    match known with
    | some (_, known) => placeSequence known placed memory spans
    | none =>
      placeSequence placed.states (placed.add state)
        (memory.insert reading.slot (reading, placed.states)) spans

/-- Backwards a set branches to its sequences, which share the states of their first bytes. -/
def placeSet (set : CharSet) (placed : Placed) : Placed :=
  if set.isAscii then (placed.add state).add (reading set.spans.length)
  else
    let sequences := set.byteSpans
    let target := placed.states + 1
    let placed := (placed.add (branching sequences.length)).add state
    (sequences.foldl (fun (placed, memory) spans => placeSequence target placed memory spans)
      (placed, (∅ : Memory))).1

/-- Places a repetition. -/
def placeRepeated (reads : Bool) (body : Placed → Placed) (least : Nat) (most : Option Nat)
    (placed : Placed) : Placed :=
  match most with
  | none =>
    if 0 < least then (Placed.times body least placed).add (branching 2)
    else if reads then body (placed.add (branching 2))
    else (((body placed).add (branching 2)).add (branching 2)).add state
  | some most =>
    if least = most then Placed.times body least placed
    else if least = 0 && most = 1 then (body (placed.add (branching 2))).add state
    else
      let placed := if least = 0 then placed.add state else Placed.times body least placed
      Placed.times (fun placed => body (placed.add (branching 2))) (most - least)
        (placed.add state)

/-- Where a layout stands: by itself, second in a choice, or later in a choice. -/
inductive Position where
  | alone
  | second
  | later

/-- What a choice needs after a layout. The states that part and join its branches are placed
after the second of them. -/
def Position.finish (position : Position) (placed : Placed) : Placed :=
  match position with
  | alone => placed
  | second => (placed.add (branching 2)).add state
  | later => { placed with bytes := placed.bytes + 4 }

/-- Places a layout backwards. -/
def placeBackward : Position → Layout → Placed → Placed
  | position, .empty, placed | position, .look _, placed => position.finish (placed.add state)
  | position, .text chars, placed =>
    position.finish (placed.addMany (Unicode.encodedLength chars) state)
  | position, .set set, placed => position.finish (placeSet set placed)
  | position, .group _ body, placed => position.finish (placeBackward .alone body placed)
  | position, .repeated body least most, placed =>
    position.finish
      (placeRepeated (reads body) (fun placed => placeBackward .alone body placed) least most
        placed)
  | position, .sequence first second, placed =>
    position.finish (placeBackward .alone first (placeBackward .alone second placed))
  | .alone, .either left right, placed =>
    match textChoices? (.either left right) with
    | some texts => placeTexts true texts placed
    | none => placeBackward .second right (placeBackward .alone left placed)
  | .second, .either left right, placed =>
    placeBackward .later right (Position.second.finish (placeBackward .alone left placed))
  | .later, .either left right, placed =>
    placeBackward .later right (Position.later.finish (placeBackward .alone left placed))

end Room

/-- Whether there is room for an expression in both directions. Before it any bytes may stand,
after it comes the state of a match, and forwards it is a group of its own. -/
def fits (regex : Regex) : Bool :=
  let layout := Layout.ofRegex regex
  let before : Room.Placed :=
    ⟨3, Room.branching 2 + Room.reading 1 + Room.state⟩
  let forward := before.bytes + 3 * Room.state + Room.forward false layout
  let backward := ((Room.placeBackward .alone layout before).add Room.state).bytes
  forward ≤ Room.limit && backward ≤ Room.limit

/-- The expression of a pattern: none if it is malformed, nested too deep or too large. -/
def read? (caseless : Bool) (pattern : String) : Option Regex :=
  (parse? caseless pattern).filter fits

end Engagements.Regex
