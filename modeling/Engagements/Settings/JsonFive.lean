import Engagements.Settings.Scalar
import Engagements.Unicode.Current

/-!
Settings as relaxed JSON: with comments, names without quotation marks, commas at the end, and more
ways to write texts and numbers.
-/
namespace Engagements.JsonFive

def isLineEnd (c : Char) : Bool := c == '\n' || c == '\r' || c == '\u2028' || c == '\u2029'

def isSpace (c : Char) : Bool :=
  isLineEnd c || c == '\uFEFF' || (Unicode.Property.isBlank c && c != '\u0085')

/-- What is skipped between tokens: white space, the rest of a line, or text up to the end of a
comment. -/
inductive Gap where
  | space
  | line
  | comment

/-- Drops a gap; a comment that does not end leaves a sign that nothing can begin with. -/
def skipGap : Gap → List Char → List Char
  | .space, '/' :: '/' :: rest => skipGap .line rest
  | .space, '/' :: '*' :: rest => skipGap .comment rest
  | .space, c :: rest => if isSpace c then skipGap .space rest else c :: rest
  | .line, c :: rest => skipGap (if isLineEnd c then .space else .line) rest
  | .comment, '*' :: '/' :: rest => skipGap .space rest
  | .comment, _ :: rest => skipGap .comment rest
  | .comment, [] => ['/']
  | _, [] => []

def skip (cs : List Char) : List Char := skipGap .space cs

/-- What one character after a backslash stands for, if it may stand there. -/
def escaped? : Char → Option Char
  | 'b' => some (Char.ofNat 8)
  | 'f' => some (Char.ofNat 12)
  | 'n' => some '\n'
  | 'r' => some '\r'
  | 't' => some '\t'
  | 'v' => some (Char.ofNat 11)
  | '0' => some (Char.ofNat 0)
  | c => if c.isDigit || c = 'x' || c = 'u' then none else some c

/-- The text up to a closing quotation mark, and what follows the mark. -/
def text? (mark : Char) : List Char → Option (List Char × List Char)
  | [] => none
  | '\\' :: '\r' :: '\n' :: rest => text? mark rest
  | '\\' :: 'x' :: a :: b :: rest =>
    match Text.hexChar? [a, b] with
    | some value => (text? mark rest).map fun (text, rest) => (value :: text, rest)
    | none => none
  | '\\' :: 'u' :: a :: b :: c :: d :: rest =>
    match Text.hexChar? [a, b, c, d] with
    | some value => (text? mark rest).map fun (text, rest) => (value :: text, rest)
    | none => none
  | '\\' :: c :: rest =>
    if isLineEnd c then text? mark rest
    else
      match escaped? c with
      | some value => (text? mark rest).map fun (text, rest) => (value :: text, rest)
      | none => none
  | c :: rest =>
    if c = mark then some ([], rest)
    else if c = '\\' || isLineEnd c then none
    else (text? mark rest).map fun (text, rest) => (c :: text, rest)

def isNameStart (c : Char) : Bool :=
  c == '$' || c == '_' || Unicode.Current.isAlphabetic c

def isNameChar (c : Char) : Bool := isNameStart c || Unicode.Property.isWord c

/-- A name in quotation marks or without. -/
def name? : List Char → Option (String × List Char)
  | [] => none
  | c :: rest =>
    if c = '"' || c = '\'' then (text? c rest).map fun (text, rest) => (String.ofList text, rest)
    else if isNameStart c then
      some (String.ofList (c :: rest.takeWhile isNameChar), rest.dropWhile isNameChar)
    else none

/-- A word that a text begins with, and what follows it. -/
def after? (word : String) (cs : List Char) : Option (List Char) :=
  if word.toList.isPrefixOf cs then some (cs.drop word.length) else none

/-- The characters of a decimal number at the start of a text: digits, of which the first is zero
only if there is no other, a point and an exponent. -/
def decimal? (cs : List Char) : Option (List Char × List Char) :=
  let whole := match cs with
    | '0' :: _ => ['0']
    | cs => cs.takeWhile Char.isDigit
  let (fraction, rest) := match cs.drop whole.length with
    | '.' :: rest => ('.' :: rest.takeWhile Char.isDigit, rest.dropWhile Char.isDigit)
    | rest => ([], rest)
  if whole = [] && fraction.length < 2 then none
  else
    let plain := (whole ++ fraction, rest)
    match rest with
    | [] => some plain
    | mark :: rest =>
      let (sign, rest) := match rest with
        | '+' :: rest => (['+'], rest)
        | '-' :: rest => (['-'], rest)
        | rest => ([], rest)
      let digits := rest.takeWhile Char.isDigit
      if (mark = 'e' || mark = 'E') && digits ≠ [] then
        some (whole ++ fraction ++ mark :: sign ++ digits, rest.drop digits.length)
      else some plain

/-- The integer or the finite number that a decimal stands for. -/
def numberOf? (literal : List Char) : Option Setting :=
  if literal.any fun c => c = '.' || c = 'e' || c = 'E' then
    match (DecimalText.read? (String.ofList literal)).map DecimalText.toSetting with
    | some (.real d) => some (.real d)
    | _ => none
  else
    match readInteger literal with
    | .ok n => some (.whole n)
    | .error _ => none

/-- A number; hexadecimal digits have 32 bits and no sign before them. -/
def number? (cs : List Char) : Option (Setting × List Char) :=
  let (sign, body) := match cs with
    | '+' :: rest => (['+'], rest)
    | '-' :: rest => (['-'], rest)
    | rest => ([], rest)
  match after? "Infinity" body, after? "NaN" body, after? "0x" body <|> after? "0X" body with
  | some rest, _, _ => some (.infinite (sign == ['-']), rest)
  | _, some rest, _ => some (.undefined, rest)
  | _, _, some rest =>
    let digits := rest.takeWhile fun c => (Text.hexValue? c).isSome
    let value := digits.foldl (fun value c => 16 * value + (Text.hexValue? c).getD 0) 0
    if sign ≠ [] || digits = [] || Width.size 32 ≤ value then none
    else some (.whole value, rest.drop digits.length)
  | _, _, _ =>
    match decimal? body with
    | some (literal, rest) => (numberOf? (sign ++ literal)).map (·, rest)
    | none => none

/-- A value without others inside. -/
def plain? (cs : List Char) : Option (Setting × List Char) :=
  match cs with
  | [] => none
  | c :: rest =>
    if c = '"' || c = '\'' then
      (text? c rest).map fun (text, rest) => (.text (String.ofList text), rest)
    else
      match after? "null" cs, after? "true" cs, after? "false" cs with
      | some rest, _, _ => some (.nothing, rest)
      | _, some rest, _ => some (.flag true, rest)
      | _, _, some rest => some (.flag false, rest)
      | _, _, _ => number? cs

mutual
/-- A value and the gap after it; values are nested no deeper than the fuel. -/
def value? : Nat → List Char → Option (Setting × List Char)
  | 0, _ => none
  | fuel + 1, cs =>
    match cs with
    | '[' :: rest =>
      match skip rest with
      | ']' :: rest => some (.list [], skip rest)
      | rest => (items? fuel rest).map fun (items, rest) => (.list items, skip rest)
    | '\x7b' :: rest =>
      match skip rest with
      | '\x7d' :: rest => some (.table [], skip rest)
      | rest => (entries? fuel rest).map fun (entries, rest) => (.table entries, skip rest)
    | cs => (plain? cs).map fun (setting, rest) => (setting, skip rest)

/-- At least one item, and what follows the closing bracket. -/
def items? : Nat → List Char → Option (List Setting × List Char)
  | 0, _ => none
  | fuel + 1, cs =>
    match value? fuel cs with
    | none => none
    | some (item, ']' :: rest) => some ([item], rest)
    | some (item, ',' :: rest) =>
      match skip rest with
      | ']' :: rest => some ([item], rest)
      | rest => (items? fuel rest).map fun (items, rest) => (item :: items, rest)
    | some _ => none

/-- At least one entry, and what follows the closing brace; the last entry of a name counts. -/
def entries? : Nat → List Char → Option (Setting.Table × List Char)
  | 0, _ => none
  | fuel + 1, cs =>
    match (name? cs).map fun (name, rest) => (name, skip rest) with
    | some (name, ':' :: rest) =>
      match value? fuel (skip rest) with
      | none => none
      | some (setting, '\x7d' :: rest) => some ([(name, setting)], rest)
      | some (setting, ',' :: rest) =>
        match skip rest with
        | '\x7d' :: rest => some ([(name, setting)], rest)
        | rest => (entries? fuel rest).map fun (entries, rest) =>
            (if (Setting.Table.get? entries name).isSome then entries
              else (name, setting) :: entries, rest)
      | some _ => none
    | _ => none
end

/-- The settings in a text that holds an object. -/
def read? (text : String) : Option Setting.Table :=
  match value? (2 * text.length + 2) (skip text.toList) with
  | some (.table entries, []) => some entries
  | _ => none

end Engagements.JsonFive
