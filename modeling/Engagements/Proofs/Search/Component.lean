import Engagements.Proofs.Text
import Engagements.Search.Component

/-!
The form of components that begin with a name, and of those that go on with a sign of equality.
-/
namespace Engagements.Search

/-- The name of a field, as components begin with it. -/
def isName : List Char → Bool
  | [] => false
  | c :: rest => Component.isNameStart c && rest.all Component.isNameChar

/-- A name that begins a component of equality and no other one. -/
def isKey : List Char → Bool
  | [] => false
  | c :: rest =>
    Component.isNameStart c && Unicode.foldCase c != 'n' &&
      !Text.blankSpans.any (·.contains c) && rest.all fun c => c.isAlphanum || c == '.'

theorem isNameChar_of_plain {c : Char} (plain : (c.isAlphanum || c == '.') = true) :
    Component.isNameChar c = true := by
  rw [Component.isNameChar]
  rcases Bool.or_eq_true_iff.mp plain with letter | dot
  · rw [Text.isWord_of_isAlphanum letter, Bool.true_or]
  · rw [dot, Bool.or_true]

theorem isNameChar_of_ascii {c : Char} (ascii : c.toNat < 128) :
    Component.isNameChar c = ([⟨0x30, 0x39⟩, ⟨0x41, 0x5A⟩, ⟨0x5F, 0x5F⟩,
      ⟨0x61, 0x7A⟩].any (Unicode.Span.contains · c) || c == '.') := by
  rw [Component.isNameChar, Unicode.Property.isWord, if_pos ascii, Unicode.Property.isAsciiWord,
    Unicode.CharSet.contains, Text.spans_asciiWord]

theorem isNameChar_sign : Component.isNameChar '=' = false := by
  rw [isNameChar_of_ascii (by decide)]
  decide

theorem isBlank_sign : Unicode.Property.isBlank '=' = false := by
  rw [Text.isBlank_char]
  decide

variable {key value : List Char}

theorem isName_of_isKey (named : isKey key = true) : isName key = true := by
  cases key with
  | nil => cases named
  | cons c rest =>
      simp only [isKey, Bool.and_eq_true] at named
      obtain ⟨⟨⟨first, _⟩, _⟩, plain⟩ := named
      have inside : ∀ c ∈ rest, Component.isNameChar c = true :=
        fun c member => isNameChar_of_plain (List.all_eq_true.mp plain c member)
      rw [isName, first, List.all_eq_true.mpr inside]
      rfl

theorem name?_of_isName {name : List Char} (named : isName name = true) {stop : Char}
    (other : Component.isNameChar stop = false) (rest : List Char) :
    Component.name? (name ++ stop :: rest) = some (name, stop :: rest) := by
  cases name with
  | nil => cases named
  | cons c others =>
      obtain ⟨first, inside⟩ := Bool.and_eq_true_iff.mp named
      rw [List.all_eq_true] at inside
      rw [List.cons_append, Component.name?, if_pos first, List.takeWhile_append_of_pos inside,
        List.dropWhile_append_of_pos inside, List.takeWhile_cons, List.dropWhile_cons, other]
      simp

theorem name?_of_isKey (named : isKey key = true) {stop : Char}
    (other : Component.isNameChar stop = false) (rest : List Char) :
    Component.name? (key ++ stop :: rest) = some (key, stop :: rest) :=
  name?_of_isName (isName_of_isKey named) other rest

/-- What begins with a name begins neither with white space nor with a negation. -/
theorem begins_of_isKey (named : isKey key = true) (rest : List Char) :
    Text.skipBlank (key ++ rest) = key ++ rest ∧
      Component.keyword? "not".toList (key ++ rest) = none := by
  cases key with
  | nil => cases named
  | cons c others =>
      simp only [isKey, Bool.and_eq_true] at named
      obtain ⟨⟨⟨_, other⟩, visible⟩, _⟩ := named
      constructor
      · rw [Text.skipBlank_eq_self_iff]
        simpa [Text.isBlank_char] using visible
      · have different : Unicode.foldCase c ≠ 'n' := by simpa using other
        exact if_neg different

theorem visible_of_isKey (named : isKey key = true) (rest : List Char) :
    (key ++ rest).all Unicode.Property.isBlank = false := by
  cases key with
  | nil => cases named
  | cons c others =>
      simp only [isKey, Bool.and_eq_true, Bool.not_eq_true'] at named
      rw [List.cons_append, List.all_cons, Text.isBlank_char, named.1.2, Bool.false_and]

/-- What begins with a name and a sign of equality has the form of equality, unless it goes over a
line. -/
theorem read?_of_isKey {text : String} (written : text.toList = key ++ '=' :: value)
    (named : isKey key = true) :
    Component.read? text = if value.contains '\n' then none else some (.equals key value) := by
  have split := name?_of_isKey named isNameChar_sign value
  have unspaced : Component.blank? ('=' :: value) = none := by
    rw [Component.blank?, isBlank_sign]
    rfl
  have sign : Text.skipBlank ('=' :: value) = '=' :: value := by
    rw [Text.skipBlank_eq_self_iff]
    simpa using isBlank_sign
  have begins := begins_of_isKey named ('=' :: value)
  rw [Component.read?, written, begins.1]
  simp only [Component.unlike?, Component.like?, Component.notFieldExists?,
    Component.fieldNotExists?, Component.exists?, Component.equals?, Component.spacedKeyword?,
    Component.lastKeyword?, Option.bind_eq_bind, Option.bind_some, Option.bind_none, split,
    unspaced, begins.2, sign]
  rfl

theorem read?_of_line {text : String} (written : text.toList = key ++ '=' :: value)
    (named : isKey key = true) (singleLine : value.contains '\n' = false) :
    Component.read? text = some (.equals key value) := by
  rw [read?_of_isKey written named, singleLine]
  rfl

end Engagements.Search
