import Engagements.Settings.Scalar
import Engagements.Settings.Yaml.Scanner

/-!
Settings as YAML: the nodes that tokens form, and the settings in the node of a single document.
-/
namespace Engagements.Yaml

/-- A node. A scalar that looks like a number may be unreadable as one. -/
inductive Node where
  | scalar (setting : Setting)
  | unreadable
  | list (items : List Node)
  | mapping (entries : List (Node × Node))

/-! ## Plain scalars -/

/-- The integer after the mark of a base. -/
def basedInteger? (base : Nat) (cs : List Char) : Option Int :=
  let (negative, digits) := DecimalText.takeSign cs
  let values := digits.map fun c => (Text.hexValue? c).getD base
  let size := values.foldl (fun value digit => base * value + digit) 0
  let n : Int := if negative then -size else size
  if digits.isEmpty || values.any (base ≤ ·) || !Width.isSigned 64 n then none else some n

def integer? (text : List Char) : Option Int :=
  let plain := (readInteger text).toOption
  match text with
  | '0' :: 'x' :: digits => basedInteger? 16 digits
  | '0' :: 'o' :: digits => basedInteger? 8 digits
  | '+' :: digits => (readInteger digits).toOption <|> plain
  | _ => plain

def unreadableNames : List String :=
  [".inf", ".Inf", ".INF", "+.inf", "+.Inf", "+.INF", "-.inf", "-.Inf", "-.INF", ".nan", ".NAN"]

def decimal? (text : String) : Option Node :=
  if unreadableNames.contains text then some .unreadable
  else
    (Setting.infinite? text <|> (DecimalText.read? text).map DecimalText.toSetting).map .scalar

/-- What a plain scalar without a tag stands for. -/
def ofPlain (text : String) : Node :=
  match integer? text.toList with
  | some n => .scalar (.whole n)
  | none =>
    match text with
    | "~" | "null" => .scalar .nothing
    | "true" => .scalar (.flag true)
    | "false" => .scalar (.flag false)
    | text => (decimal? text).getD (.scalar (.text text))

/-- What a plain scalar with a standard tag stands for; it may have no value of that kind. -/
def ofTagged (tag text : String) : Node :=
  let nothing : Node := .scalar .nothing
  match tag with
  | "bool" =>
    match text with
    | "true" => .scalar (.flag true)
    | "false" => .scalar (.flag false)
    | _ => nothing
  | "int" =>
    match readInteger text.toList with
    | .ok n => .scalar (.whole n)
    | .error _ => nothing
  | "float" => (decimal? text).getD nothing
  | "null" => nothing
  | _ => .scalar (.text text)

/-! ## Nodes -/

/-- The properties before a node. -/
structure Properties where
  anchor : Option String
  tag : Option (Bool × String)

namespace Properties

def take : List Token → Properties × List Token
  | .anchor name :: .tag standard tag :: rest => (⟨some name, some (standard, tag)⟩, rest)
  | .tag standard tag :: .anchor name :: rest => (⟨some name, some (standard, tag)⟩, rest)
  | .anchor name :: rest => (⟨some name, none⟩, rest)
  | .tag standard tag :: rest => (⟨none, some (standard, tag)⟩, rest)
  | rest => (⟨none, none⟩, rest)

def isEmpty (properties : Properties) : Bool :=
  properties.anchor.isNone && properties.tag.isNone

def scalar (properties : Properties) (isPlain : Bool) (text : String) : Node :=
  if !isPlain then .scalar (.text text)
  else
    match properties.tag with
    | none => ofPlain text
    | some (true, tag) => ofTagged tag text
    | some (false, _) => .scalar (.text text)

end Properties

/-- The tokens to come, and the nodes that have anchors; a node that is not finished is nothing. -/
structure Reader where
  tokens : List Token
  anchors : List (String × Node)

namespace Reader

def skip (reader : Reader) : Reader := { reader with tokens := reader.tokens.drop 1 }

def next? (reader : Reader) : Option Token := reader.tokens.head?

/-- The node of a name that is left out. -/
def blank : Node := .scalar .nothing

def name (reader : Reader) (anchor : Option String) (node : Node) : Reader :=
  match anchor with
  | none => reader
  | some name => { reader with anchors := (name, node) :: reader.anchors }

def endsBlockKey (token : Option Token) : Bool :=
  token = some .key || token = some .value || token = some .blockEnd

def endsFlowMember (token : Option Token) : Bool :=
  token = some .comma || token = some .flowMappingEnd

def endsFlowItem (token : Option Token) : Bool :=
  token = some .comma || token = some .flowSequenceEnd

def endsDash (token : Option Token) : Bool := token = some .dash || endsBlockKey token

/-- Whether a token begins a node where blocks, or sequences that are not indented, may stand. -/
def beginsNode (block loose : Bool) : Option Token → Bool
  | some (.scalar _ _) | some .flowSequenceStart | some .flowMappingStart => true
  | some .dash => loose
  | some .sequenceStart | some .mappingStart => block
  | _ => false

mutual
/-- A node; `block` tells whether it may be a block, and `loose` whether it may be a sequence that
is not indented. Nodes are nested no deeper than the fuel. -/
def node? : Nat → (block loose : Bool) → Reader → Option (Node × Reader)
  | 0, _, _, _ => none
  | fuel + 1, block, loose, reader =>
    match reader.next? with
    | some (.alias name) => (reader.anchors.lookup name).map (·, reader.skip)
    | _ =>
      let (properties, tokens) := Properties.take reader.tokens
      let reader := { reader with tokens := tokens }.name properties.anchor blank
      let read : Option (Node × Reader) :=
        if !beginsNode block loose reader.next? then
          if properties.isEmpty then none else some (properties.scalar true "~", reader)
        else
          match tokens with
          | .scalar isPlain text :: _ => some (properties.scalar isPlain text, reader.skip)
          | .flowSequenceStart :: _ => flowItems? fuel true [] reader.skip
          | .flowMappingStart :: _ => flowMembers? fuel true [] reader.skip
          | .dash :: _ => looseItems? fuel [] reader
          | .sequenceStart :: _ => blockItems? fuel [] reader.skip
          | _ => blockMembers? fuel [] reader.skip
      read.map fun (node, reader) => (node, reader.name properties.anchor node)

/-- Items after dashes, the last first, of a sequence that is indented no further than its
mapping. -/
def looseItems? : Nat → List Node → Reader → Option (Node × Reader)
  | 0, _, _ => none
  | fuel + 1, items, reader =>
    if reader.next? ≠ some .dash then some (.list items.reverse, reader)
    else
      let reader := reader.skip
      if endsDash reader.next? then looseItems? fuel (blank :: items) reader
      else
        match node? fuel true false reader with
        | some (item, reader) => looseItems? fuel (item :: items) reader
        | none => none

def blockItems? : Nat → List Node → Reader → Option (Node × Reader)
  | 0, _, _ => none
  | fuel + 1, items, reader =>
    match reader.next? with
    | some .blockEnd => some (.list items.reverse, reader.skip)
    | some .dash =>
      let reader := reader.skip
      if reader.next? = some .dash || reader.next? = some .blockEnd then
        blockItems? fuel (blank :: items) reader
      else
        match node? fuel true false reader with
        | some (item, reader) => blockItems? fuel (item :: items) reader
        | none => none
    | _ => none

/-- Names and values up to the end of a block, the last first. -/
def blockMembers? : Nat → List (Node × Node) → Reader → Option (Node × Reader)
  | 0, _, _ => none
  | fuel + 1, members, reader =>
    match reader.next? with
    | some .blockEnd => some (.mapping members.reverse, reader.skip)
    | some .key =>
      if endsBlockKey reader.skip.next? then blockValue? fuel members blank reader.skip
      else
        match node? fuel true true reader.skip with
        | some (key, reader) => blockValue? fuel members key reader
        | none => none
    | some .value => blockValue? fuel members blank reader
    | _ => none

/-- The value of a name in a block, and the members after it. -/
def blockValue? : Nat → List (Node × Node) → Node → Reader → Option (Node × Reader)
  | 0, _, _, _ => none
  | fuel + 1, members, key, reader =>
    if reader.next? ≠ some .value then blockMembers? fuel ((key, blank) :: members) reader
    else if endsBlockKey reader.skip.next? then
      blockMembers? fuel ((key, blank) :: members) reader.skip
    else
      match node? fuel true true reader.skip with
      | some (value, reader) => blockMembers? fuel ((key, value) :: members) reader
      | none => none

/-- Items between brackets, the last first. A name with a value is a mapping of its own. -/
def flowItems? : Nat → (first : Bool) → List Node → Reader → Option (Node × Reader)
  | 0, _, _, _ => none
  | fuel + 1, first, items, reader =>
    if reader.next? = some .flowSequenceEnd then some (.list items.reverse, reader.skip)
    else if !first && reader.next? ≠ some .comma then none
    else
      let reader := if first then reader else reader.skip
      match reader.next? with
      | some .flowSequenceEnd => some (.list items.reverse, reader.skip)
      | some .key =>
        match flowPair? fuel reader.skip with
        | some (item, reader) => flowItems? fuel false (item :: items) reader
        | none => none
      | _ =>
        match node? fuel false false reader with
        | some (item, reader) => flowItems? fuel false (item :: items) reader
        | none => none

/-- A name with a value among the items between brackets. -/
def flowPair? : Nat → Reader → Option (Node × Reader)
  | 0, _ => none
  | fuel + 1, reader =>
    let key :=
      if reader.next? = some .value || endsFlowItem reader.next? then some (blank, reader)
      else node? fuel false false reader
    match key with
    | none => none
    | some (key, reader) =>
      if reader.next? ≠ some .value then some (.mapping [(key, blank)], reader)
      else if endsFlowItem reader.skip.next? then some (.mapping [(key, blank)], reader.skip)
      else (node? fuel false false reader.skip).map fun (value, reader) =>
        (.mapping [(key, value)], reader)

/-- Names and values between braces, the last first. -/
def flowMembers? : Nat → (first : Bool) → List (Node × Node) → Reader → Option (Node × Reader)
  | 0, _, _, _ => none
  | fuel + 1, first, members, reader =>
    if reader.next? = some .flowMappingEnd then some (.mapping members.reverse, reader.skip)
    else if !first && reader.next? ≠ some .comma then none
    else
      let reader := if first then reader else reader.skip
      match reader.next? with
      | some .flowMappingEnd => some (.mapping members.reverse, reader.skip)
      | some .key =>
        if reader.skip.next? = some .value || endsFlowMember reader.skip.next? then
          flowValue? fuel members blank reader.skip
        else
          match node? fuel false false reader.skip with
          | some (key, reader) => flowValue? fuel members key reader
          | none => none
      | some .value => flowValue? fuel members blank reader
      | _ =>
        match node? fuel false false reader with
        | some (key, reader) => flowMembers? fuel false ((key, blank) :: members) reader
        | none => none

def flowValue? : Nat → List (Node × Node) → Node → Reader → Option (Node × Reader)
  | 0, _, _, _ => none
  | fuel + 1, members, key, reader =>
    if reader.next? ≠ some .value then flowMembers? fuel false ((key, blank) :: members) reader
    else if endsFlowMember reader.skip.next? then
      flowMembers? fuel false ((key, blank) :: members) reader.skip
    else
      match node? fuel false false reader.skip with
      | some (value, reader) => flowMembers? fuel false ((key, value) :: members) reader
      | none => none
end

/-- The node of a document after its start mark. -/
def content? (fuel : Nat) (reader : Reader) : Option (Node × Reader) :=
  match reader.next? with
  | none | some .directive | some .documentStart | some .documentEnd => some (blank, reader)
  | _ => node? fuel true false reader

/-- The nodes of all documents. The first one needs no start mark. -/
def documents? (nodes : Nat) : Nat → (first : Bool) → Reader → Option (List Node)
  | 0, _, _ => none
  | fuel + 1, first, reader =>
    let ends (token : Token) : Bool := token = .documentEnd
    let tokens := if first then reader.tokens else reader.tokens.dropWhile ends
    let marked := tokens.head? = some .directive || tokens.head? = some .documentStart
    let start : Reader := ⟨tokens, []⟩
    let read :=
      if marked then
        match tokens.dropWhile (· = .directive) with
        | .documentStart :: rest => content? nodes { start with tokens := rest }
        | _ => none
      else if first then node? nodes true false start
      else none
    match tokens, read with
    | [], _ => some []
    | _, some (node, reader) =>
      let reader := if reader.next? = some .documentEnd then reader.skip else reader
      (documents? nodes fuel false reader).map (node :: ·)
    | _, none => none

end Reader

/-! ## Settings -/

mutual
/-- The setting that a node stands for. Names have to be texts or integers. -/
def Node.toSetting : Node → Except LoadFailure Setting
  | .scalar setting => .ok setting
  | .unreadable => .error .malformed
  | .list items => (settingsOf items).map .list
  | .mapping entries => (tableOf [] entries).map .table
termination_by structural node => node

def settingsOf : List Node → Except LoadFailure (List Setting)
  | [] => .ok []
  | item :: items => do
    let setting ← item.toSetting
    let settings ← settingsOf items
    return setting :: settings
termination_by structural items => items

def tableOf (table : Setting.Table) : List (Node × Node) → Except LoadFailure Setting.Table
  | [] => .ok table
  | (key, value) :: entries => do
    let name ←
      match key with
      | .scalar (.text name) => .ok name
      | .scalar (.whole n) => .ok (toString n)
      | _ => .error .crash
    let setting ← value.toSetting
    tableOf (Setting.Table.insert table name setting) entries
termination_by structural entries => entries
end

/-- The settings in a text with at most one document, which is a mapping. -/
def read (text : String) : Except LoadFailure Setting.Table :=
  let nodes? :=
    (tokens? text).bind fun tokens =>
      Reader.documents? (2 * tokens.length + 2) (tokens.length + 1) true ⟨tokens, []⟩
  match nodes? with
  | some [] => .ok []
  | some [node] =>
    match node.toSetting with
    | .ok (.table entries) => .ok entries
    | .ok _ => .error .malformed
    | .error failure => .error failure
  | _ => .error .malformed

end Engagements.Yaml
