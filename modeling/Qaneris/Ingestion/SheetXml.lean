import Qaneris.Infra.Regex
import Qaneris.Infra.Windows

/-!
# The extent of a worksheet, read from its raw XML

`_sheet_xml_facts` does not parse the XML of a worksheet. It looks for `<row r="…"`, `<c r="…"` and
`<mergeCell` in the bytes, chunk by chunk, and takes the greatest row and column it finds.
-/

namespace Ingestion

open Infra

/-- The bytes of a text in ASCII. -/
def ascii (text : String) : List UInt8 := text.toList.map fun c => c.toNat.toUInt8

def isDigitByte (b : UInt8) : Bool := 0x30 ≤ b && b ≤ 0x39

def isLetterByte (b : UInt8) : Bool := (0x41 ≤ b && b ≤ 0x5A) || (0x61 ≤ b && b ≤ 0x7A)

/-- What `\w` matches among bytes. -/
def isWordByte (b : UInt8) : Bool := isDigitByte b || isLetterByte b || b == 0x5F

/-- What `\s` matches among bytes. -/
def isSpaceByte (b : UInt8) : Bool := b == 0x20 || (0x09 ≤ b && b ≤ 0x0D)

def xmlChunkBytes : Nat := 65536

def xmlChunkOverlap : Nat := 64

/-- `<(?:\w+:)?name` -/
def opened (name : List UInt8) : Regex UInt8 :=
  .seq (.lit (ascii "<")) <|
  .seq (.opt (.seq (.plus (.one isWordByte)) (.lit (ascii ":")))) <|
  .lit name

/-- `<(?:\w+:)?name\s+r="value"` -/
def reference (name : List UInt8) (value : Regex UInt8) : Regex UInt8 :=
  .seq (opened name) <|
  .seq (.plus (.one isSpaceByte)) <|
  .seq (.lit (ascii "r=\"")) <|
  .seq value <|
  .lit (ascii "\"")

/-- `<(?:\w+:)?row\s+r="(\d+)"` -/
def rowReference : Regex UInt8 := reference (ascii "row") (.group 1 (.plus (.one isDigitByte)))

/-- `<(?:\w+:)?c\s+r="([A-Za-z]+)(\d+)"` -/
def cellReference : Regex UInt8 :=
  reference (ascii "c")
    (.seq (.group 1 (.plus (.one isLetterByte))) (.group 2 (.plus (.one isDigitByte))))

/-- `<(?:\w+:)?mergeCell[\s/>]` -/
def mergeElement : Regex UInt8 :=
  .seq (opened (ascii "mergeCell")) (.one fun b => isSpaceByte b || b == 0x2F || b == 0x3E)

structure SheetXmlFacts where
  rowExtent : Nat := 0
  columnExtent : Nat := 0
  hasMergedRange : Bool := false
  deriving DecidableEq, Repr

/-- The most digits `int` reads. -/
def maxDigits : Nat := 4300

def numberOf (digits : List UInt8) : Nat := digits.foldl (fun n b => n * 10 + (b.toNat - 48)) 0

/-- `int(digits)`; none where it raises `ValueError`. -/
def int? (digits : List UInt8) : Option Nat :=
  if digits.length ≤ maxDigits then some (numberOf digits) else none

def upperByte (b : UInt8) : UInt8 := if 0x61 ≤ b && b ≤ 0x7A then b - 32 else b

def columnIndex (letters : List UInt8) : Nat :=
  (letters.map upperByte).foldl (fun index b => index * 26 + (b.toNat - 64)) 0

def addRow (facts : SheetXmlFacts) (m : Regex.Match UInt8) : Option SheetXmlFacts := do
  let row ← int? (m.group 1)
  return { facts with rowExtent := max facts.rowExtent row }

def addCell (facts : SheetXmlFacts) (m : Regex.Match UInt8) : Option SheetXmlFacts := do
  let facts := { facts with columnExtent := max facts.columnExtent (columnIndex (m.group 1)) }
  let row ← int? (m.group 2)
  return { facts with rowExtent := max facts.rowExtent row }

/-- `_MERGE_ELEMENT.search(window)` finds the first match. -/
def hasMerge (window : List UInt8) : Bool := !(mergeElement.finditer window).isEmpty

def addWindow (facts : SheetXmlFacts) (window : List UInt8) : Option SheetXmlFacts := do
  let facts := { facts with hasMergedRange := facts.hasMergedRange || hasMerge window }
  let facts ← (rowReference.finditer window).foldlM addRow facts
  (cellReference.finditer window).foldlM addCell facts

/-- The facts of a part of the archive; `none` inside where there is no such part. -/
def sheetXmlFacts : Option (List UInt8) → Option SheetXmlFacts
  | none => some {}
  | some bytes => (windows xmlChunkBytes xmlChunkOverlap bytes).foldlM addWindow {}

/-! ## Worksheets -/

/-- A character of an attribute's value: itself, or a reference to its number. -/
inductive ValueChar where
  | plain (c : Char)
  | decimal (zeros : Nat) (c : Char)
  | hexadecimal (zeros : Nat) (c : Char)
  deriving DecidableEq, Repr

namespace ValueChar

def char : ValueChar → Char
  | plain c | decimal _ c | hexadecimal _ c => c

def written : ValueChar → List Char
  | plain c => [c]
  | decimal zeros c => "&#".toList ++ List.replicate zeros '0' ++ Nat.toDigits 10 c.toNat ++ [';']
  | hexadecimal zeros c =>
    "&#x".toList ++ List.replicate zeros '0' ++ Nat.toDigits 16 c.toNat ++ [';']

end ValueChar

inductive Quotes where
  | single
  | double
  deriving DecidableEq, Repr

def Quotes.char : Quotes → Char
  | single => '\''
  | double => '"'

/-- An attribute with the white space before it and around its equals sign. -/
structure Attribute where
  space : List Char
  name : List Char
  beforeEquals : List Char := []
  afterEquals : List Char := []
  quotes : Quotes := .double
  value : List ValueChar
  deriving DecidableEq, Repr

def Attribute.written (a : Attribute) : List Char :=
  a.space ++ a.name ++ a.beforeEquals ++ '=' :: a.afterEquals ++
    a.quotes.char :: (a.value.flatMap ValueChar.written ++ [a.quotes.char])

/-- The tag an element starts with; `main` when its qualifier stands for the namespace of
worksheets. -/
structure StartTag where
  main : Bool := true
  qualifier : Option (List Char) := none
  name : List Char
  attributes : List Attribute := []
  space : List Char := []
  closed : Bool := false
  deriving DecidableEq, Repr

namespace StartTag

def openingOf (qualifier : Option (List Char)) (name : List Char) : List Char :=
  '<' :: ((qualifier.elim [] fun q => q ++ [':']) ++ name)

def written (tag : StartTag) : List Char :=
  openingOf tag.qualifier tag.name ++ tag.attributes.flatMap Attribute.written ++ tag.space ++
    (if tag.closed then ['/', '>'] else ['>'])

/-- The value of the attribute `r`. -/
def reference? (tag : StartTag) : Option (List Char) :=
  (tag.attributes.find? (·.name == ['r'])).map fun a => a.value.map ValueChar.char

end StartTag

/-- A piece of a document: a start tag, or anything between two start tags as it is written (an end
tag, text, a comment, a section of character data, a declaration). -/
inductive Piece where
  | start (tag : StartTag)
  | other (written : List Char)
  deriving DecidableEq, Repr

def Piece.written : Piece → List Char
  | start tag => tag.written
  | other written => written

/-- A worksheet: the pieces of its document in their order. The well-formed ones are among them. -/
structure Worksheet where
  pieces : List Piece
  deriving DecidableEq, Repr

namespace Worksheet

variable (sheet : Worksheet)

def written : List Char := sheet.pieces.flatMap Piece.written

/-- The bytes of the part, under the encoding of the document. -/
def bytes (encode : Char → List UInt8) : List UInt8 := sheet.written.flatMap encode

def tags (name : String) : List StartTag :=
  sheet.pieces.filterMap fun piece =>
    match piece with
    | .start tag => if tag.main ∧ tag.name = name.toList then some tag else none
    | .other _ => none

/-- A text of digits. -/
def digits? (text : List Char) : Option (List UInt8) :=
  let bytes := text.map fun c => c.toNat.toUInt8
  if text ≠ [] ∧ text.all Char.isDigit then some bytes else none

/-- The rows that are referred to. -/
def rows : List Nat :=
  (sheet.tags "row").filterMap fun tag => do
    let digits ← digits? (← tag.reference?)
    return numberOf digits

/-- The cells that are referred to, the column first. -/
def cells : List (Nat × Nat) :=
  (sheet.tags "c").filterMap fun tag => do
    let text ← tag.reference?
    let letters := text.takeWhile Char.isAlpha
    let digits ← digits? (text.dropWhile Char.isAlpha)
    if letters = [] then none
    else return (columnIndex (letters.map fun c => c.toNat.toUInt8), numberOf digits)

def merged : Bool := !(sheet.tags "mergeCell").isEmpty

end Worksheet

end Ingestion
