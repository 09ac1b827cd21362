import Engagements.Settings.Scalar

/-!
Names, texts, numbers and times in TOML, and what may stand between them.
-/
namespace Engagements.Toml

/-- Characters that texts and comments may hold: no control characters but tabs. -/
def isPlain (c : Char) : Bool := c == '\t' || (32 ≤ c.toNat && c.toNat ≠ 127)

def skipBlank (cs : List Char) : List Char := cs.dropWhile fun c => c = ' ' || c = '\t'

/-- What follows a line end, if a text begins with one. -/
def afterLine? : List Char → Option (List Char)
  | '\n' :: rest => some rest
  | '\r' :: '\n' :: rest => some rest
  | _ => none

/-- What follows a line of which the rest is blank or a comment. -/
def endLine? (cs : List Char) : Option (List Char) :=
  let rest := skipBlank cs
  match if rest.head? = some '#' then rest.dropWhile isPlain else rest with
  | [] => some []
  | rest => afterLine? rest

/-- Drops blanks, line ends and comments. -/
def skipLines : (comment : Bool) → List Char → List Char
  | _, '\n' :: rest => skipLines false rest
  | _, '\r' :: '\n' :: rest => skipLines false rest
  | true, c :: rest => if isPlain c then skipLines true rest else c :: rest
  | false, '#' :: rest => skipLines true rest
  | false, c :: rest => if c = ' ' || c = '\t' then skipLines false rest else c :: rest
  | _, [] => []

def prepend (c : Char) (read : Option (List Char × List Char)) : Option (List Char × List Char) :=
  read.map fun (text, rest) => (c :: text, rest)

def escaped? : Char → Option Char
  | 'b' => some (Char.ofNat 8)
  | 't' => some '\t'
  | 'n' => some '\n'
  | 'f' => some (Char.ofNat 12)
  | 'r' => some '\r'
  | '"' => some '"'
  | '\\' => some '\\'
  | _ => none

/-- The text up to a quotation mark, and what follows the mark. -/
def line? : List Char → Option (List Char × List Char)
  | [] => none
  | '"' :: rest => some ([], rest)
  | '\\' :: 'u' :: a :: b :: c :: d :: rest =>
    (Text.hexChar? [a, b, c, d]).bind fun value => prepend value (line? rest)
  | '\\' :: 'U' :: a :: b :: c :: d :: e :: f :: g :: h :: rest =>
    (Text.hexChar? [a, b, c, d, e, f, g, h]).bind fun value => prepend value (line? rest)
  | '\\' :: c :: rest => (escaped? c).bind fun value => prepend value (line? rest)
  | c :: rest => if isPlain c then prepend c (line? rest) else none

/-- After three closing marks up to two more belong to the text before them. -/
def closing (mark : Char) : List Char → List Char × List Char
  | c :: d :: rest =>
    if c = mark && d = mark then ([mark, mark], rest)
    else if c = mark then ([mark], d :: rest)
    else ([], c :: d :: rest)
  | [c] => if c = mark then ([mark], []) else ([], [c])
  | [] => ([], [])

/-- The text up to three quotation marks. A backslash at the end of a line joins it to the next
line that is not blank, without the white space between them. -/
def lines? (joining : Bool) : List Char → Option (List Char × List Char)
  | [] => none
  | '"' :: '"' :: '"' :: rest => some (closing '"' rest)
  | '\\' :: 'u' :: a :: b :: c :: d :: rest =>
    (Text.hexChar? [a, b, c, d]).bind fun value => prepend value (lines? false rest)
  | '\\' :: 'U' :: a :: b :: c :: d :: e :: f :: g :: h :: rest =>
    (Text.hexChar? [a, b, c, d, e, f, g, h]).bind fun value => prepend value (lines? false rest)
  | '\\' :: c :: rest =>
    match escaped? c with
    | some value => prepend value (lines? false rest)
    | none => if (afterLine? (skipBlank (c :: rest))).isSome then lines? true (c :: rest) else none
  | '\r' :: '\n' :: rest => if joining then lines? true rest else prepend '\n' (lines? false rest)
  | c :: rest =>
    if joining && (c = ' ' || c = '\t' || c = '\n') then lines? true rest
    else if c = '\n' || isPlain c then prepend c (lines? false rest)
    else none

/-- The text up to an apostrophe, in which nothing is escaped. -/
def literalLine? : List Char → Option (List Char × List Char)
  | [] => none
  | '\'' :: rest => some ([], rest)
  | c :: rest => if isPlain c then prepend c (literalLine? rest) else none

def literalLines? : List Char → Option (List Char × List Char)
  | [] => none
  | '\'' :: '\'' :: '\'' :: rest => some (closing '\'' rest)
  | '\r' :: '\n' :: rest => prepend '\n' (literalLines? rest)
  | c :: rest => if c = '\n' || isPlain c then prepend c (literalLines? rest) else none

/-- A text in any kind of quotation marks. A line end right after three marks is dropped. -/
def text? (cs : List Char) : Option (String × List Char) :=
  let read :=
    match cs with
    | '"' :: '"' :: '"' :: rest => lines? false ((afterLine? rest).getD rest)
    | '\'' :: '\'' :: '\'' :: rest => literalLines? ((afterLine? rest).getD rest)
    | '"' :: rest => line? rest
    | '\'' :: rest => literalLine? rest
    | _ => none
  read.map fun (text, rest) => (String.ofList text, rest)

def isNameChar (c : Char) : Bool := c.isAlphanum || c == '_' || c == '-'

/-- A name on one line, with or without quotation marks. -/
def name? (cs : List Char) : Option (String × List Char) :=
  match cs with
  | '"' :: rest => (line? rest).map fun (text, rest) => (String.ofList text, rest)
  | '\'' :: rest => (literalLine? rest).map fun (text, rest) => (String.ofList text, rest)
  | cs =>
    match cs.takeWhile isNameChar with
    | [] => none
    | name => some (String.ofList name, cs.dropWhile isNameChar)

/-- Names with dots between them in a text that is no longer than the fuel, and what follows them
and the blanks after them. -/
def names? : Nat → List Char → Option (List String × List Char)
  | 0, _ => none
  | fuel + 1, cs =>
    match (name? cs).map fun (name, rest) => (name, skipBlank rest) with
    | some (name, '.' :: rest) =>
      (names? fuel (skipBlank rest)).map fun (names, rest) => (name :: names, rest)
    | some (name, rest) => some ([name], rest)
    | none => none

/-! ## Numbers -/

/-- Digits with single underscores between them, of which there is at least one. -/
def digits? (isDigit : Char → Bool) : List Char → Option (List Char × List Char)
  | '_' :: _ | [] => none
  | c :: '_' :: rest => if isDigit c then prepend c (digits? isDigit rest) else none
  | c :: rest =>
    if !isDigit c then none
    else
      match digits? isDigit rest with
      | some (digits, rest) => some (c :: digits, rest)
      | none => some ([c], rest)

/-- An integer that begins with the mark of its base. -/
def based? (base : Nat) (cs : List Char) : Option Setting :=
  match digits? (fun c => (Text.hexValue? c).any (· < base)) cs with
  | some (digits, []) =>
    let n := digits.foldl (fun value c => base * value + (Text.hexValue? c).getD 0) 0
    if n < Width.size 63 then some (.whole n) else none
  | _ => none

def exponent? : List Char → Option (List Char)
  | [] => some []
  | mark :: rest =>
    let (negative, rest) := DecimalText.takeSign rest
    match digits? Char.isDigit rest with
    | some (digits, []) =>
      if mark = 'e' || mark = 'E' then some ('e' :: (if negative then ['-'] else []) ++ digits)
      else none
    | _ => none

/-- The number nearest to a decimal; none if it is larger than all numbers. -/
def decimalOf? (literal : List Char) : Option Setting :=
  match (DecimalText.read? (String.ofList literal)).map DecimalText.toSetting with
  | some (.infinite false) | none => none
  | some setting => some setting

/-- A decimal integer or number, of which the first digit is zero only if no other digit follows
before the point. -/
def decimal? (sign cs : List Char) : Option Setting :=
  match digits? Char.isDigit cs with
  | none => none
  | some (whole, rest) =>
    if whole.head? = some '0' && whole ≠ ['0'] then none
    else
      match rest with
      | [] =>
        match readInteger (sign ++ whole) with
        | .ok n => some (.whole n)
        | .error _ => none
      | '.' :: rest =>
        match digits? Char.isDigit rest with
        | some (fraction, rest) =>
          (exponent? rest).bind fun exponent =>
            decimalOf? (sign ++ whole ++ '.' :: fraction ++ exponent)
        | none => none
      | rest => (exponent? rest).bind fun exponent => decimalOf? (sign ++ whole ++ exponent)

def number? : List Char → Option Setting
  | '0' :: 'x' :: rest => based? 16 rest
  | '0' :: 'o' :: rest => based? 8 rest
  | '0' :: 'b' :: rest => based? 2 rest
  | cs =>
    let (negative, body) := DecimalText.takeSign cs
    if body = "inf".toList then some (.infinite negative)
    else if body = "nan".toList then some .undefined
    else decimal? (if negative then ['-'] else []) body

/-! ## Times -/

/-- A count of digits, and what follows them. -/
def fixed? (count : Nat) (cs : List Char) : Option (Nat × List Char) :=
  let digits := cs.take count
  if digits.length = count && digits.all Char.isDigit then
    some (Text.naturalOf digits, cs.drop count)
  else none

def padded (count n : Nat) : String :=
  let digits := toString n
  String.ofList (List.replicate (count - digits.length) '0') ++ digits

def daysIn (year month : Nat) : Nat :=
  if month = 2 then
    if year % 4 = 0 && (year % 100 ≠ 0 || year % 400 = 0) then 29 else 28
  else if [4, 6, 9, 11].contains month then 30
  else 31

/-- A date, written out again, and what follows it. -/
def date? (cs : List Char) : Option (String × List Char) :=
  match fixed? 4 cs with
  | some (year, '-' :: rest) =>
    match fixed? 2 rest with
    | some (month, '-' :: rest) =>
      match fixed? 2 rest with
      | some (day, rest) =>
        if 1 ≤ month && month ≤ 12 && 1 ≤ day && day ≤ daysIn year month then
          some (s!"{padded 4 year}-{padded 2 month}-{padded 2 day}", rest)
        else none
      | none => none
    | _ => none
  | _ => none

/-- A part of a second in nine digits at most, without zeros at its end. -/
def secondPart? : List Char → Option (String × List Char)
  | '.' :: rest =>
    let digits := rest.takeWhile Char.isDigit
    let kept := ((digits.take 9).reverse.dropWhile (· == '0')).reverse
    if digits = [] then none
    else some (String.ofList (if kept = [] then [] else '.' :: kept), rest.drop digits.length)
  | rest => some ("", rest)

/-- A time of day; a minute may have a leap second. -/
def time? (cs : List Char) : Option (String × List Char) :=
  match fixed? 2 cs with
  | some (hour, ':' :: rest) =>
    match fixed? 2 rest with
    | some (minute, ':' :: rest) =>
      match fixed? 2 rest with
      | some (second, rest) =>
        if hour < 24 && minute < 60 && second ≤ 60 then
          (secondPart? rest).map fun (part, rest) =>
            (s!"{padded 2 hour}:{padded 2 minute}:{padded 2 second}{part}", rest)
        else none
      | none => none
    | _ => none
  | _ => none

/-- The difference from universal time, or nothing. -/
def offset? : List Char → Option String
  | [] => some ""
  | ['Z'] | ['z'] => some "Z"
  | sign :: rest =>
    if sign = '+' || sign = '-' then
      match fixed? 2 rest with
      | some (hour, ':' :: rest) =>
        match fixed? 2 rest with
        | some (minute, []) =>
          let sign := if hour + minute = 0 then '+' else sign
          if hour < 24 && minute < 60 then some s!"{sign}{padded 2 hour}:{padded 2 minute}"
          else none
        | _ => none
      | _ => none
    else none

/-- A date, a time, or both, written out again. -/
def moment? (cs : List Char) : Option String :=
  match date? cs with
  | some (date, []) => some date
  | some (date, mark :: rest) =>
    if mark = 'T' || mark = 't' || mark = ' ' then
      match time? rest with
      | some (time, rest) => (offset? rest).map fun offset => s!"{date}T{time}{offset}"
      | none => none
    else none
  | none =>
    match time? cs with
    | some (time, []) => some time
    | _ => none

def isWordChar (c : Char) : Bool :=
  c.isAlphanum || c == '_' || c == '+' || c == '-' || c == '.' || c == ':'

/-- The characters of a value without quotation marks: a blank may stand in it between a date and
a time. -/
def word (cs : List Char) : List Char × List Char :=
  let first := cs.takeWhile isWordChar
  match cs.dropWhile isWordChar with
  | ' ' :: rest =>
    if (date? first).any (·.2 = []) && rest.head?.any Char.isDigit then
      (first ++ ' ' :: rest.takeWhile isWordChar, rest.dropWhile isWordChar)
    else (first, ' ' :: rest)
  | rest => (first, rest)

/-- The value of a word. -/
def ofWord? (cs : List Char) : Option Setting :=
  if cs = "true".toList then some (.flag true)
  else if cs = "false".toList then some (.flag false)
  else number? cs <|> (moment? cs).map .text

end Engagements.Toml
