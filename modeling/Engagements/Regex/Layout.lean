import Engagements.Regex

/-!
Expressions in the form in which they are laid out for matching: adjacent characters form texts,
choices between characters form sets, and what can only match nothing is left out.
-/
namespace Engagements.Regex

open Unicode (CharSet)

/-- A simplified expression. Sequences and choices branch to the right only. -/
inductive Layout where
  | empty
  | text (chars : List Char)
  | set (set : CharSet)
  | look (look : Look)
  | group (number : Nat) (body : Layout)
  | repeated (body : Layout) (least : Nat) (most : Option Nat)
  | sequence (first second : Layout)
  | either (left right : Layout)
  deriving DecidableEq

namespace Layout

/-- A set of one character is a text. -/
def ofSet (chars : CharSet) : Layout :=
  match chars.spans with
  | [⟨first, last⟩] => if first = last then .text [Char.ofNat first] else .set chars
  | _ => .set chars

/-- Puts one layout before another and joins the texts that meet. -/
def before : Layout → Layout → Layout
  | empty, next => next
  | sequence first second, next => before first (before second next)
  | text chars, next =>
    match next with
    | empty => .text chars
    | text more => .text (chars ++ more)
    | sequence (text more) rest => .sequence (.text (chars ++ more)) rest
    | next => .sequence (.text chars) next
  | first, next =>
    match next with
    | empty => first
    | next => .sequence first next

def parts : Layout → List Layout
  | empty => []
  | sequence first second => first :: parts second
  | layout => [layout]

def ofParts (parts : List Layout) : Layout := parts.foldr before .empty

def choices : Layout → List Layout
  | either left right => left :: choices right
  | layout => [layout]

def ofChoices : List Layout → Layout
  | [] => .set .empty
  | [only] => only
  | first :: rest => .either first (ofChoices rest)

def char? : Layout → Option Char
  | text [c] => some c
  | _ => none

def set? : Layout → Option CharSet
  | set chars => some chars
  | _ => none

def isSequence : Layout → Bool
  | sequence _ _ => true
  | _ => false

/-- Choices between characters, or between sets, are a set. -/
def choose (layouts : List Layout) : Layout :=
  match layouts.flatMap choices with
  | [only] => only
  | layouts =>
    match layouts.mapM char? with
    | some chars => ofSet (.ofChars chars)
    | none =>
      match layouts.mapM set? with
      | some sets => ofSet (.unionOf sets)
      | none => ofChoices layouts

def commonParts : List Layout → List Layout → List Layout
  | left :: lefts, right :: rights => if left = right then left :: commonParts lefts rights else []
  | _, _ => []

/-- The parts that all choices begin with; a choice of one part has none to share. -/
def sharedParts (layouts : List Layout) : List Layout :=
  if layouts.all isSequence then
    match layouts with
    | [] => []
    | first :: rest => rest.foldl (fun shared layout => commonParts shared layout.parts) first.parts
  else []

/-- A choice whose shared parts stand before it. -/
def oneOf (layouts : List Layout) : Layout :=
  match layouts.flatMap choices with
  | [only] => only
  | layouts =>
    let shared := sharedParts layouts
    let rests := layouts.map fun layout => ofParts (layout.parts.drop shared.length)
    if shared = [] then choose layouts else ofParts (shared ++ [choose rests])

/-- Whether a layout matches nothing but the empty text. -/
def isBlank : Layout → Bool
  | empty | look _ => true
  | text _ | set _ => false
  | group _ body | repeated body _ _ => isBlank body
  | sequence left right | either left right => isBlank left && isBlank right

/-- What is repeated no times is empty, and what is blank has no need of a second time. -/
def repeatedly (body : Layout) (least : Nat) (most : Option Nat) : Layout :=
  let least := if body.isBlank then min least 1 else least
  let most := if body.isBlank then some (min (most.getD 1) 1) else most
  if least = 0 && most = some 0 then .empty
  else if least = 1 && most = some 1 then body
  else .repeated body least most

/-- The choices of an expression, each laid out. -/
def choicesOf : Regex → List Layout
  | .empty => [.empty]
  | .one chars => [ofSet chars]
  | .folded key => [ofSet (CharSet.single key).closeCase]
  | .look condition => [.look condition]
  | .group none body => [oneOf (choicesOf body)]
  | .group (some number) body => [.group number (oneOf (choicesOf body))]
  | .sequence first second => [before (oneOf (choicesOf first)) (oneOf (choicesOf second))]
  | .either left right => choicesOf left ++ choicesOf right
  | .repeated body least most => [repeatedly (oneOf (choicesOf body)) least most]

def ofRegex (regex : Regex) : Layout := oneOf (choicesOf regex)

end Layout

end Engagements.Regex
