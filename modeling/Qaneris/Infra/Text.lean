import Qaneris.Infra.Unicode

/-!
# Searching text for a word

What a regular expression of the shape `\b(word|word|…)\b` or `\bprefix\w+` finds when case is
ignored. Existence of a match is all that is modelled: neither shape captures anything.
-/

namespace Infra

/-- One pattern character in lower case against one character of the text, ignoring case.

Besides its upper case form, four characters outside ASCII match an ASCII letter. -/
def ignoreCaseEq (pattern c : Char) : Bool :=
  c == pattern || (isAsciiUpper c && c.toLower == pattern) ||
    match pattern with
    | 'i' => c.toNat == 0x130 || c.toNat == 0x131
    | 'k' => c.toNat == 0x212A
    | 's' => c.toNat == 0x17F
    | _ => false

/-- The text after `word`, when the text starts with it. -/
def dropWord : (word text : List Char) → Option (List Char)
  | [], text => some text
  | _ :: _, [] => none
  | p :: word, c :: text => if ignoreCaseEq p c then dropWord word text else none

/-- `\b` between two neighbouring characters, `none` standing for an end of the text. -/
def wordBoundary (before after : Option Char) : Bool :=
  before.any isWord != after.any isWord

/-- Some place of the text, with the character before it, satisfies `found`. -/
def searchFrom (found : Option Char → List Char → Bool) : Option Char → List Char → Bool
  | before, [] => found before []
  | before, c :: text => found before (c :: text) || searchFrom found (some c) text

/-- `\bword\b` at this place. The word is non-empty and made of word characters. -/
def wordAt (word : List Char) (before : Option Char) (text : List Char) : Bool :=
  wordBoundary before text.head? &&
    match dropWord word text with
    | some rest => wordBoundary word.getLast? rest.head?
    | none => false

end Infra
