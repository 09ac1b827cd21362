import Engagements.Unicode.Property

/-!
The classes of characters in texts. Texts know a later edition of the character tables than
patterns do; what it adds and takes away stands here.
-/
namespace Engagements.Unicode.Current

def newAlphabetic : CharSet := .read
  "88F C5C CDC A7CE-A7CF A7D2 A7D4 A7F1 10940-10959 10EC5-10EC7 10EFA-10EFB 11B60-11B67
  11DB0-11DDB 16EA0-16EB8 16EBB-16ED3 16FF2-16FF6 187F8-187FF 18D09-18D1E 18D80-18DF2
  1E6C0-1E6DE 1E6E0-1E6F5 1E6FE-1E6FF 2B73A-2B73F 2CEA2-2CEAD 323B0-33479"

def newCased : CharSet := .read
  "A7CE-A7CF A7D2 A7D4 A7F1 16EA0-16EB8 16EBB-16ED3"

/-- Letters that have become letters without case. -/
def noLongerCased : CharSet := .read "295"

def newCaseIgnorable : CharSet := .read
  "1ACF-1ADD 1AE0-1AEB A7F1 10EC5 10EFA-10EFB 11B60 11B62-11B64 11B66 11DD9 16FF2-16FF3 1E6E3
  1E6E6 1E6EE-1E6EF 1E6F5 1E6FF"

def newGraphemeExtend : CharSet := .read
  "1ACF-1ADD 1AE0-1AEB 10EFA-10EFB 11B60 11B62-11B64 11B66 1E6E3 1E6E6 1E6EE-1E6EF 1E6F5"

def newNumeric : CharSet := .read
  "11DE0-11DE9 16FF4-16FF6"

def newAssigned : CharSet := .read
  "88F C5C CDC 1ACF-1ADD 1AE0-1AEB 20C1 2B96 A7CE-A7CF A7D2 A7D4 A7F1 FBC3-FBD2 FD90-FD91
  FDC8-FDCE 10940-10959 10EC5-10EC7 10ED0-10ED8 10EFA-10EFB 11B60-11B67 11DB0-11DDB
  11DE0-11DE9 16EA0-16EB8 16EBB-16ED3 16FF2-16FF6 187F8-187FF 18D09-18D1E 18D80-18DF2
  1CCFA-1CCFC 1CEBA-1CED0 1CEE0-1CEF0 1E6C0-1E6DE 1E6E0-1E6F5 1E6FE-1E6FF 1F6D8 1F777-1F77A
  1F8D0-1F8D8 1FA54-1FA57 1FA8A 1FA8E 1FAC8 1FACD 1FAEA 1FAEF 1FBFA 2B73A-2B73F 2CEA2-2CEAD
  323B0-33479"

def isAlphabetic (c : Char) : Bool := Property.alphabetic.contains c || newAlphabetic.contains c

def isCased (c : Char) : Bool :=
  (Property.cased.contains c && !noLongerCased.contains c) || newCased.contains c

def isCaseIgnorable (c : Char) : Bool :=
  Property.caseIgnorable.contains c || newCaseIgnorable.contains c

def isGraphemeExtend (c : Char) : Bool :=
  Property.graphemeExtend.contains c || newGraphemeExtend.contains c

def numeric : CharSet := Category.setOf Category.numbers

/-- Letters and numbers of any script. -/
def isAlphanumeric (c : Char) : Bool :=
  isAlphabetic c || numeric.contains c || newNumeric.contains c

/-- Letters that take up room and show nothing. -/
def fillers : CharSet := .read "115F-1160 3164 FFA0"

/-- What a reader cannot see: separators but the blank, controls, and what is not assigned. -/
def unseen : CharSet :=
  CharSet.difference
    (CharSet.union (Category.setOf (Category.separators ++ Category.others)) fillers)
    (CharSet.union newAssigned (.read "20"))

def isPrintable (c : Char) : Bool := !unseen.contains c

end Engagements.Unicode.Current
