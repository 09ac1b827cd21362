import Engagements.Text
import Engagements.Value
import Engagements.Width

/-!
Reading of JSON text, one character at a time: the containers that are still open form a stack,
and every character either moves the reader on or is refused.
-/
namespace Engagements.Json

def scaledOnce? (value : Double) (exponent : Int) : Option Double :=
  match Double.powerOfTen? exponent.natAbs with
  | none => none
  | some power => if 0 ≤ exponent then value.mul? power else value.div? power

/-- The double of a whole significand and a power of ten, rounded after each step; none if it is
too large. An exponent below -308 is taken in steps, and two of them leave zero. -/
def scaledIn? : Nat → Double → Int → Option Double
  | 0, value, _ => some value
  | steps + 1, value, exponent =>
    if exponent.natAbs ≤ 308 then scaledOnce? value exponent
    else if value.rank = 0 then some value
    else if 0 ≤ exponent then none
    else
      match scaledOnce? value (-308) with
      | none => none
      | some smaller => scaledIn? steps smaller (exponent + 308)

def scaled? (value : Double) (exponent : Int) : Option Double := scaledIn? 3 value exponent

/-- A significand that has taken in digits for as long as it fits 64 bits. -/
structure Significand where
  value : Nat
  exponent : Int
  full : Bool

namespace Significand

def fits (significand : Significand) (digit : Nat) : Bool :=
  !significand.full && significand.value * 10 + digit < Width.size 64

def wholeDigit (significand : Significand) (c : Char) : Significand :=
  if significand.fits (Text.digitValue c) then
    { significand with value := significand.value * 10 + Text.digitValue c }
  else { significand with full := true, exponent := significand.exponent + 1 }

def fractionDigit (significand : Significand) (c : Char) : Significand :=
  if significand.fits (Text.digitValue c) then
    { significand with
      value := significand.value * 10 + Text.digitValue c, exponent := significand.exponent - 1 }
  else { significand with full := true }

def ofDigits (whole fraction : List Char) : Significand :=
  let read := whole.foldl wholeDigit ⟨0, 0, false⟩
  fraction.foldl fractionDigit { read with full := false }

end Significand

/-- The double of a literal with the given parts. An exponent beyond 32 bits gives zero, or is
refused if the number would be infinite. -/
def double? (negative : Bool) (whole fraction : List Char) (exponent : Int) : Option Number :=
  let significand := Significand.ofDigits whole fraction
  let signed (d : Double) : Number := .double { d with negative := negative }
  if Width.size 31 ≤ exponent.natAbs then
    if significand.value != 0 && 0 < exponent then none else some (signed Double.zero)
  else
    (scaled? (Double.ofInt significand.value) (significand.exponent + exponent)).map signed

/-- An integer literal that fits 64 bits, with or without a sign, is an integer; zero with a sign
and every other literal is a double. -/
def integer? (negative : Bool) (digits : List Char) : Option Number :=
  let n := Text.naturalOf digits
  if negative then
    if 0 < n && n ≤ Width.size 63 then some (.integer (-(n : Int))) else double? true digits [] 0
  else if n < Width.size 64 then some (.integer n) else double? false digits [] 0

def splitDigits (cs : List Char) : List Char × List Char :=
  (cs.takeWhile Char.isDigit, cs.dropWhile Char.isDigit)

def fractionPart? : List Char → Option (List Char × List Char)
  | '.' :: rest =>
    let (digits, rest) := splitDigits rest
    if digits = [] then none else some (digits, rest)
  | rest => some ([], rest)

def exponentDigits? (negative : Bool) (cs : List Char) : Option Int :=
  let (digits, rest) := splitDigits cs
  if digits = [] || rest ≠ [] then none
  else some (if negative then -(Text.naturalOf digits : Int) else Text.naturalOf digits)

def exponentPart? : List Char → Option (Option Int)
  | [] => some none
  | c :: rest =>
    if c = 'e' || c = 'E' then
      match rest with
      | '+' :: digits => (exponentDigits? false digits).map some
      | '-' :: digits => (exponentDigits? true digits).map some
      | digits => (exponentDigits? false digits).map some
    else none

/-- The number that a literal without white space stands for. -/
def number? (literal : List Char) : Option Number :=
  let negative := literal.head? = some '-'
  let (whole, rest) := splitDigits (if negative then literal.drop 1 else literal)
  if whole = [] || (whole.head? = some '0' && whole.length ≠ 1) then none
  else
    match fractionPart? rest with
    | none => none
    | some (fraction, rest) =>
      match exponentPart? rest with
      | none => none
      | some none =>
        if fraction = [] then integer? negative whole else double? negative whole fraction 0
      | some (some exponent) => double? negative whole fraction exponent

/-- A container that has not been closed yet; items stand in reverse. -/
inductive Container where
  | array (items : List Value)
  | object (fields : Fields) (pending : String)

/-- What may come next, between two tokens. -/
inductive Expectation where
  | value
  | valueOrClose
  | nameOrClose
  | name
  | colon
  | separator

/-- What stands between the quotes of a string: plain text, the start of an escape, or an escape
by number with the first half of a pair before it. -/
inductive StringMode where
  | plain
  | escape
  | numbered (digits : List Char) (half : Option Nat)
  | secondBackslash (half : Nat)
  | secondLetter (half : Nat)

inductive Mode where
  | between (next : Expectation)
  | string (isName : Bool) (read : List Char) (mode : StringMode)
  | number (read : List Char)
  | word (read : List Char)
  | finished (value : Value)

structure Reader where
  stack : List Container
  mode : Mode

namespace Reader

def start : Reader := ⟨[], .between .value⟩

/-- Containers may nest 127 deep. -/
def deepest : Nat := 127

def openContainer (stack : List Container) (container : Container) (next : Expectation) :
    Option Reader :=
  if stack.length < deepest then some ⟨container :: stack, .between next⟩ else none

/-- A finished value goes into the innermost open container. -/
def complete (stack : List Container) (value : Value) : Reader :=
  match stack with
  | [] => ⟨[], .finished value⟩
  | .array items :: rest => ⟨.array (value :: items) :: rest, .between .separator⟩
  | .object fields name :: rest =>
    ⟨.object (Fields.insert fields name value) "" :: rest, .between .separator⟩

def completeString (stack : List Container) (isName : Bool) (text : String) : Option Reader :=
  if isName then
    match stack with
    | .object fields _ :: rest => some ⟨.object fields text :: rest, .between .colon⟩
    | _ => none
  else some (complete stack (.string text))

def close (stack : List Container) (closing : Char) : Option Reader :=
  match stack with
  | .array items :: rest =>
    if closing = ']' then some (complete rest (.array items.reverse)) else none
  | .object fields _ :: rest =>
    if closing = '\x7d' then some (complete rest (.object fields)) else none
  | [] => none

def isClosing (c : Char) : Bool := c == ']' || c == '\x7d'

def isWhite (c : Char) : Bool := c == ' ' || c == '\n' || c == '\t' || c == '\r'

def isWordChar (c : Char) : Bool := 'a' ≤ c && c ≤ 'z'

def isNumberChar (c : Char) : Bool :=
  c.isDigit || c == '-' || c == '+' || c == '.' || c == 'e' || c == 'E'

def beginValue (stack : List Container) (c : Char) : Option Reader :=
  if c = '[' then openContainer stack (.array []) .valueOrClose
  else if c = '\x7b' then openContainer stack (.object [] "") .nameOrClose
  else if c = '"' then some ⟨stack, .string false [] .plain⟩
  else if c.isDigit || c = '-' then some ⟨stack, .number [c]⟩
  else if isWordChar c then some ⟨stack, .word [c]⟩
  else none

def stepBetween (stack : List Container) (next : Expectation) (c : Char) : Option Reader :=
  if isWhite c then some ⟨stack, .between next⟩
  else
    match next with
    | .value => beginValue stack c
    | .valueOrClose => if c = ']' then close stack c else beginValue stack c
    | .nameOrClose =>
      if c = '"' then some ⟨stack, .string true [] .plain⟩
      else if c = '\x7d' then close stack c
      else none
    | .name => if c = '"' then some ⟨stack, .string true [] .plain⟩ else none
    | .colon => if c = ':' then some ⟨stack, .between .value⟩ else none
    | .separator =>
      if isClosing c then close stack c
      else if c = ',' then
        match stack with
        | .array _ :: _ => some ⟨stack, .between .value⟩
        | .object _ _ :: _ => some ⟨stack, .between .name⟩
        | [] => none
      else none

/-- The character that an escape of one letter stands for. -/
def escaped? : Char → Option Char
  | '"' => some '"'
  | '\\' => some '\\'
  | '/' => some '/'
  | 'b' => some (Char.ofNat 8)
  | 'f' => some (Char.ofNat 12)
  | 'n' => some '\n'
  | 'r' => some '\r'
  | 't' => some '\t'
  | _ => none

def hexNumber? (digits : List Char) : Option Nat :=
  digits.foldlM (fun value c => (Text.hexValue? c).map (16 * value + ·)) 0

/-- Four digits name a character, the first half of a pair, or the second after a first. -/
def numberedEscape? (read : List Char) (code : Nat) : Option Nat → Option (List Char × StringMode)
  | none =>
    if 0xD800 ≤ code && code < 0xDC00 then some (read, .secondBackslash code)
    else if 0xDC00 ≤ code && code < 0xE000 then none
    else some (Char.ofNat code :: read, .plain)
  | some half =>
    if 0xDC00 ≤ code && code < 0xE000 then
      some (Char.ofNat (0x10000 + (half - 0xD800) * 0x400 + (code - 0xDC00)) :: read, .plain)
    else none

def stepString (stack : List Container) (isName : Bool) (read : List Char) (mode : StringMode)
    (c : Char) : Option Reader :=
  let go (read : List Char) (mode : StringMode) : Option Reader :=
    some ⟨stack, .string isName read mode⟩
  match mode with
  | .plain =>
    if c = '"' then completeString stack isName (String.ofList read.reverse)
    else if c = '\\' then go read .escape
    else if c.toNat < 32 then none
    else go (c :: read) .plain
  | .escape =>
    if c = 'u' then go read (.numbered [] none)
    else
      match escaped? c with
      | some plain => go (plain :: read) .plain
      | none => none
  | .numbered digits half =>
    if digits.length < 3 then go read (.numbered (digits ++ [c]) half)
    else
      match hexNumber? (digits ++ [c]) with
      | none => none
      | some code =>
        match numberedEscape? read code half with
        | some (read, mode) => go read mode
        | none => none
  | .secondBackslash half => if c = '\\' then go read (.secondLetter half) else none
  | .secondLetter half => if c = 'u' then go read (.numbered [] (some half)) else none

def word? (word : List Char) : Option Value :=
  if word = "true".toList then some (.bool true)
  else if word = "false".toList then some (.bool false)
  else if word = "null".toList then some .null
  else none

def stepFinished (value : Value) (c : Char) : Option Reader :=
  if isWhite c then some ⟨[], .finished value⟩ else none

/-- Reads the character after a value that nothing marks the end of. -/
def stepAfter (reader : Reader) (c : Char) : Option Reader :=
  match reader.mode with
  | .finished value => stepFinished value c
  | .between next => stepBetween reader.stack next c
  | _ => none

def step (reader : Reader) (c : Char) : Option Reader :=
  match reader.mode with
  | .between next => stepBetween reader.stack next c
  | .string isName read mode => stepString reader.stack isName read mode c
  | .number read =>
    if isNumberChar c then some ⟨reader.stack, .number (c :: read)⟩
    else
      match number? read.reverse with
      | some n => stepAfter (complete reader.stack (.number n)) c
      | none => none
  | .word read =>
    if isWordChar c then some ⟨reader.stack, .word (c :: read)⟩
    else
      match word? read.reverse with
      | some value => stepAfter (complete reader.stack value) c
      | none => none
  | .finished value => stepFinished value c

/-- A blank ends whatever is pending at the end of the text. -/
def result? (reader : Reader) : Option Value :=
  match reader.step ' ' with
  | some ⟨_, .finished value⟩ => some value
  | _ => none

end Reader

/-- The value that a JSON text stands for. -/
def read? (text : String) : Option Value :=
  match text.toList.foldlM Reader.step Reader.start with
  | some reader => reader.result?
  | none => none

end Engagements.Json
