import Engagements.Settings.Scalar

/-!
Settings as object notation with named structures, tuples and optional values.
-/
namespace Engagements.Ron

def isSpace (c : Char) : Bool := c == ' ' || c == '\t' || c == '\n' || c == '\r'

/-- Drops white space and comments, where `depth` comments are open. A comment that does not end
leaves a sign that nothing can begin with. -/
def skipFrom : (depth : Nat) → (line : Bool) → List Char → List Char
  | 0, true, c :: rest => skipFrom 0 (c != '\n') rest
  | 0, false, '/' :: '/' :: rest => skipFrom 0 true rest
  | 0, false, '/' :: '*' :: rest => skipFrom 1 false rest
  | 0, false, c :: rest => if isSpace c then skipFrom 0 false rest else c :: rest
  | depth + 1, _, '/' :: '*' :: rest => skipFrom (depth + 2) false rest
  | depth + 1, _, '*' :: '/' :: rest => skipFrom depth false rest
  | depth + 1, _, _ :: rest => skipFrom (depth + 1) false rest
  | 0, _, [] => []
  | _ + 1, _, [] => ['/']

def skip (cs : List Char) : List Char := skipFrom 0 false cs

def isNameStart (c : Char) : Bool := c.isAlpha || c == '_'

def isNameChar (c : Char) : Bool := c.isAlphanum || c == '_'

/-- Names with the mark of raw ones may hold a few more characters. -/
def isRawNameChar (c : Char) : Bool := isNameChar c || c == '.' || c == '+' || c == '-'

def name? : List Char → Option (String × List Char)
  | 'r' :: '#' :: rest =>
    match rest.takeWhile isRawNameChar with
    | [] => none
    | name => some (String.ofList name, rest.dropWhile isRawNameChar)
  | 'r' :: '"' :: _ => none
  | c :: rest =>
    if isNameStart c then
      some (String.ofList (c :: rest.takeWhile isNameChar), rest.dropWhile isNameChar)
    else none
  | [] => none

def escaped? : Char → Option Char
  | '\'' => some '\''
  | '"' => some '"'
  | '\\' => some '\\'
  | 'n' => some '\n'
  | 'r' => some '\r'
  | 't' => some '\t'
  | '0' => some (Char.ofNat 0)
  | _ => none

/-- The text up to a closing mark. The digits of a character number in braces are gathered on the
way. -/
def text? (mark : Char) : (digits : Option (List Char)) → List Char →
    Option (List Char × List Char)
  | _, [] => none
  | none, '\\' :: 'x' :: a :: b :: rest =>
    match Text.hexChar? [a, b] with
    | some value => (text? mark none rest).map fun (text, rest) => (value :: text, rest)
    | none => none
  | none, '\\' :: 'u' :: '\x7b' :: rest => text? mark (some []) rest
  | none, '\\' :: c :: rest =>
    match escaped? c with
    | some value => (text? mark none rest).map fun (text, rest) => (value :: text, rest)
    | none => none
  | none, c :: rest =>
    if c = mark then some ([], rest)
    else if c = '\\' then none
    else (text? mark none rest).map fun (text, rest) => (c :: text, rest)
  | some digits, '\x7d' :: rest =>
    match Text.hexChar? digits.reverse with
    | some value =>
      if digits = [] then none
      else (text? mark none rest).map fun (text, rest) => (value :: text, rest)
    | none => none
  | some digits, c :: rest =>
    if digits.length < 6 then text? mark (some (c :: digits)) rest else none

/-- The text up to a quotation mark and a count of signs after it. -/
def rawText? (count : Nat) : List Char → Option (List Char × List Char)
  | [] => none
  | c :: rest =>
    if c = '"' && (List.replicate count '#').isPrefixOf rest then some ([], rest.drop count)
    else (rawText? count rest).map fun (text, rest) => (c :: text, rest)

/-- A text between quotation marks, or a single character between apostrophes. -/
def quoted? : List Char → Option (Setting × List Char)
  | '"' :: rest =>
    (text? '"' none rest).map fun (text, rest) => (.text (String.ofList text), rest)
  | '\'' :: rest =>
    match text? '\'' none rest with
    | some ([c], rest) => some (.text (String.singleton c), rest)
    | _ => if rest.take 2 = ['\'', '\''] then some (.text "'", rest.drop 2) else none
  | 'r' :: rest =>
    match rest.dropWhile (· == '#') with
    | '"' :: body =>
      (rawText? (rest.takeWhile (· == '#')).length body).map fun (text, rest) =>
        (.text (String.ofList text), rest)
    | _ => none
  | _ => none

/-- An integer of 64 bits, or the double that is nearest to a larger one. -/
def integer (n : Int) : Setting := if Width.isSigned 64 n then .whole n else .real (Double.ofInt n)

/-- The digits of a number in some base, between which there may be underscores. -/
def digits? (base : Nat) (cs : List Char) : Option (Nat × List Char) :=
  let isDigit (c : Char) : Bool := c == '_' || (Text.hexValue? c).isSome
  let digits := cs.takeWhile isDigit
  let values := (digits.filter (· ≠ '_')).map fun c => (Text.hexValue? c).getD 0
  if digits.head?.all (· == '_') || values.any (base ≤ ·) then none
  else some (values.foldl (fun value digit => base * value + digit) 0, cs.drop digits.length)

/-- Digits after a sign or none, with the mark of their base. -/
def integer? (cs : List Char) : Option (Setting × List Char) :=
  let (negative, body) := DecimalText.takeSign cs
  let read :=
    match body with
    | '0' :: 'x' :: rest => digits? 16 rest
    | '0' :: 'b' :: rest => digits? 2 rest
    | '0' :: 'o' :: rest => digits? 8 rest
    | rest => digits? 10 rest
  read.map fun (n, rest) => (integer (if negative then -(n : Int) else n), rest)

def isDecimalChar (c : Char) : Bool :=
  c.isDigit || c == 'e' || c == 'E' || c == '.' || c == '+' || c == '-' || c == '_'

def decimal? (cs : List Char) : Option (Setting × List Char) :=
  let literal := String.ofList (cs.takeWhile isDecimalChar)
  (DecimalText.read? literal).map fun decimal => (decimal.toSetting, cs.dropWhile isDecimalChar)

/-- A number whose signs look like those of a decimal is one; an integer that is none may be a
decimal after all. -/
def number? (cs : List Char) : Option (Setting × List Char) :=
  let body := match cs with
    | '+' :: rest | '-' :: rest => rest
    | cs => cs
  let isDigit (c : Char) : Bool := c == '_' || (Text.hexValue? c).isSome
  if (body.takeWhile isDigit).length < (body.takeWhile isDecimalChar).length then decimal? cs
  else integer? cs <|> decimal? cs

/-- The number that a name stands for, after a sign or none. -/
def numberNamed? (negative : Bool) (name : String) : Option Setting :=
  match name with
  | "inf" => some (.infinite negative)
  | "NaN" => some .undefined
  | _ => none

def signed? (cs : List Char) : Option (Setting × List Char) :=
  let (negative, body) := DecimalText.takeSign cs
  match name? body with
  | some (name, rest) => (numberNamed? negative name).map (·, rest)
  | none => number? cs

/-- Whether the parts of a structure have names. -/
def hasNames (cs : List Char) : Bool :=
  match name? cs with
  | some (_, rest) => (skip rest).head? = some ':'
  | none => false

mutual
/-- A value and the gap after it; values are nested no deeper than the fuel. -/
def value? : Nat → List Char → Option (Setting × List Char)
  | 0, _ => none
  | fuel + 1, cs =>
    match cs with
    | '(' :: ')' :: rest => some (.nothing, skip rest)
    | '(' :: rest => structure? fuel rest
    | '[' :: rest =>
      (items? ']' fuel (skip rest)).map fun (items, rest) => (.list items, skip rest)
    | '\x7b' :: rest =>
      (pairs? fuel (skip rest)).map fun (entries, rest) => (.table entries, skip rest)
    | '+' :: _ | '-' :: _ => (signed? cs).map fun (setting, rest) => (setting, skip rest)
    | cs =>
      match name? cs with
      | some (name, rest) => named? fuel name (skip rest)
      | none =>
        (quoted? cs <|> number? cs).map fun (setting, rest) => (setting, skip rest)

/-- What a name begins: a word with a meaning, a present value, or a structure. -/
def named? : Nat → String → List Char → Option (Setting × List Char)
  | 0, _, _ => none
  | fuel + 1, name, cs =>
    match name, cs with
    | "true", rest => some (.flag true, rest)
    | "false", rest => some (.flag false, rest)
    | "None", rest => some (.nothing, rest)
    | "Some", '(' :: rest =>
      match value? fuel (skip rest) with
      | some (setting, ')' :: rest) => some (setting, skip rest)
      | _ => none
    | "Some", _ => none
    | name, rest =>
      match numberNamed? false name, rest with
      | some setting, rest => some (setting, rest)
      | none, '(' :: rest => structure? fuel rest
      | none, rest => some (.nothing, rest)

/-- The parts of a structure after its opening parenthesis. -/
def structure? : Nat → List Char → Option (Setting × List Char)
  | 0, _ => none
  | fuel + 1, cs =>
    let cs := skip cs
    if hasNames cs then
      (members? fuel cs).map fun (entries, rest) => (.table entries, skip rest)
    else (items? ')' fuel cs).map fun (items, rest) => (.list items, skip rest)

/-- Items up to a closing bracket, with commas between them. -/
def items? (closing : Char) : Nat → List Char → Option (List Setting × List Char)
  | 0, _ => none
  | fuel + 1, cs =>
    if cs.head? = some closing then some ([], cs.drop 1)
    else
      match value? fuel cs with
      | none => none
      | some (item, ',' :: rest) =>
        (items? closing fuel (skip rest)).map fun (items, rest) => (item :: items, rest)
      | some (item, c :: rest) => if c = closing then some ([item], rest) else none
      | some (_, []) => none

/-- Named members up to a closing parenthesis; the last member of a name counts. -/
def members? : Nat → List Char → Option (Setting.Table × List Char)
  | 0, _ => none
  | fuel + 1, cs =>
    match cs, (name? cs).map fun (name, rest) => (name, skip rest) with
    | ')' :: rest, _ => some ([], rest)
    | _, some (name, ':' :: rest) =>
      match value? fuel (skip rest) with
      | some (setting, ')' :: rest) => some ([(name, setting)], rest)
      | some (setting, ',' :: rest) =>
        (members? fuel (skip rest)).map fun (entries, rest) =>
          (if (Setting.Table.get? entries name).isSome then entries
            else (name, setting) :: entries, rest)
      | _ => none
    | _, _ => none

/-- Pairs of a text and a value up to a closing brace. -/
def pairs? : Nat → List Char → Option (Setting.Table × List Char)
  | 0, _ => none
  | fuel + 1, cs =>
    match cs with
    | '\x7d' :: rest => some ([], rest)
    | cs =>
      match value? fuel cs with
      | some (.text name, ':' :: rest) =>
        match value? fuel (skip rest) with
        | some (setting, '\x7d' :: rest) => some ([(name, setting)], rest)
        | some (setting, ',' :: rest) =>
          (pairs? fuel (skip rest)).map fun (entries, rest) =>
            (if (Setting.Table.get? entries name).isSome then entries
              else (name, setting) :: entries, rest)
        | _ => none
      | _ => none
end

/-- Drops the lines that switch extensions on, of which there may be several. -/
def skipExtensions : Nat → List Char → List Char
  | 0, cs => cs
  | fuel + 1, cs =>
    let mark := "#![enable(".toList
    if mark.isPrefixOf cs then
      let names := (Text.split ',' (String.ofList ((cs.drop mark.length).takeWhile (· ≠ ')')))).map
        Text.trim
      let known := ["unwrap_newtypes", "implicit_some", "unwrap_variant_newtypes", ""]
      match (cs.drop mark.length).dropWhile (· ≠ ')') with
      | ')' :: ']' :: rest =>
        if names.all known.contains then skipExtensions fuel (skip rest) else cs
      | _ => cs
    else cs

/-- The settings in a text that holds a structure or pairs. -/
def read? (text : String) : Option Setting.Table :=
  match value? (3 * text.length + 3) (skipExtensions text.length (skip text.toList)) with
  | some (.table entries, []) => some entries
  | _ => none

end Engagements.Ron
