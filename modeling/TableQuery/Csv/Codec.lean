import TableQuery.Csv.Header
import TableQuery.Csv.Reading
import TableQuery.Csv.Writing
import TableQuery.Settings
import TableQuery.Table
import TableQuery.Text.Utf8

/-!
# Tables as text

A codec reads a text of records as a table and writes a table as a text of records. A delimiter
below 128 is a character, and then the text is read and written as characters and nothing can fail.
A delimiter from 128 on is a byte that may lie inside a character, so the text is taken as bytes,
and what comes of it must be UTF-8 again.
-/

namespace TableQuery.Csv

/-- Why a text cannot be read or a table cannot be written. -/
inductive CodecFault
  /-- A field is not UTF-8. The record and the field are counted from zero, the line from one; line
  and byte are where the reading stood when it began the record. -/
  | unreadable (record line field byte validLength : Nat)
  /-- The written bytes are not UTF-8. -/
  | unwritable (fault : Text.Utf8.Fault)
deriving DecidableEq, Repr

def CodecFault.message : CodecFault → String
  | unreadable record line field byte validLength =>
    "CSV parse error: record " ++ Number.natText record ++ " (line " ++ Number.natText line ++
      ", field: " ++ Number.natText field ++ ", byte: " ++ Number.natText byte ++
      "): invalid utf-8: invalid UTF-8 in field " ++ Number.natText field ++
      " near byte index " ++ Number.natText validLength
  | unwritable ⟨validLength, some n⟩ =>
    "invalid utf-8 sequence of " ++ Number.natText n ++ " bytes from index " ++
      Number.natText validLength
  | unwritable ⟨validLength, none⟩ =>
    "incomplete utf-8 byte sequence from index " ++ Number.natText validLength

structure Codec where
  delimiter : UInt8
  header : HeaderMode
deriving DecidableEq, Repr

namespace Codec

def ofSettings (settings : Settings) : Codec :=
  ⟨settings.delimiter, settings.header⟩

/-- Is the delimiter a character of its own? -/
def isTextual (codec : Codec) : Bool :=
  codec.delimiter < 128

def charDialect (codec : Codec) : Dialect Char :=
  .ofChar (Char.ofNat codec.delimiter.toNat)

def byteDialect (codec : Codec) : Dialect UInt8 :=
  .ofByte codec.delimiter

/-! ## Reading -/

/-- The text without a byte order mark at its beginning. -/
def dropMark : List Char → List Char
  | '\uFEFF' :: rest => rest
  | text => text

/-- The fields of a record of bytes as strings, counted from `index`. -/
def decodeFields (fault : Nat → Nat → CodecFault) (index : Nat) :
    List (List UInt8) → Except CodecFault (List String)
  | [] => .ok []
  | field :: rest =>
    match Text.Utf8.decode field with
    | .error f => .error (fault index f.validLength)
    | .ok text => (String.ofList text :: ·) <$> decodeFields fault (index + 1) rest

/-- The fault of a field in a record that was begun `start` bytes behind a mark of `skipped` bytes,
which counts for the place of a fault unless the fault is in the first record. -/
def faultAt (bytes : List UInt8) (skipped record start field validLength : Nat) : CodecFault :=
  .unreadable record ((bytes.take start).count 0x0A + 1) field
    (if record = 0 then 0 else start + skipped) validLength

/-- The records of bytes, with their starts, as records of strings. -/
def decodeRecords (bytes : List UInt8) (skipped record : Nat) :
    List (Nat × List (List UInt8)) → Except CodecFault (List (List String))
  | [] => .ok []
  | (start, fields) :: rest => do
    let first ← decodeFields (faultAt bytes skipped record start) 0 fields
    (first :: ·) <$> decodeRecords bytes skipped (record + 1) rest

/-- The records of a text, read as bytes. Two byte order marks may stand before them. -/
def readAsBytes (codec : Codec) (text : String) : Except CodecFault (List (List String)) :=
  let marked := dropMark text.toList
  let body := dropMark marked
  let bytes := Text.Utf8.encode body
  let skipped := if marked.length = body.length then 0 else 3
  decodeRecords bytes skipped 0
    ((recordStarts codec.byteDialect bytes).zip (records codec.byteDialect bytes))

/-- The records of a text. Two byte order marks may stand before them. -/
def readRecords (codec : Codec) (text : String) : Except CodecFault (List (List String)) :=
  if codec.isTextual then
    .ok ((records codec.charDialect (dropMark (dropMark text.toList))).map (·.map String.ofList))
  else
    codec.readAsBytes text

/-- The row of a record. Columns without a field get no cell, fields without a column are lost. -/
def rowOfRecord (headers record : List String) : Row :=
  .ofList ((headers.zip record).map fun (name, field) => (name, Cell.infer field))

/-- Is the first record taken for the names of the columns? -/
def takesHeader (codec : Codec) (first : List String) : Bool :=
  match codec.header with
  | .present => true
  | .absent => false
  | .detect => looksLikeHeader first

/-- The table of a list of records. -/
def tableOfRecords (codec : Codec) : List (List String) → Table
  | [] => .empty
  | first :: rest =>
    if codec.takesHeader first then
      let headers := headerNames first
      ⟨headers, rest.map (rowOfRecord headers), false⟩
    else
      let headers := generatedNames first.length
      ⟨headers, (first :: rest).map (rowOfRecord headers), true⟩

def decode (codec : Codec) (text : String) : Except CodecFault Table :=
  codec.tableOfRecords <$> codec.readRecords text

/-! ## Writing -/

/-- The fields of a row in the order of the columns. -/
def recordOfRow (headers : List String) (row : Row) : List String :=
  headers.map fun name => (row.cell name).text

/-- The records that a table is written as. A table without columns has none, and made-up names are
not written. -/
def recordsOfTable (table : Table) : List (List String) :=
  if table.headers.isEmpty then []
  else
    (if table.synthetic then [] else [table.headers]) ++
      table.rows.map (recordOfRow table.headers)

/-- The text of records, written as bytes. -/
def writeAsBytes (codec : Codec) (rs : List (List String)) : Except CodecFault String :=
  match Text.Utf8.decode (writeRecords codec.byteDialect
      (rs.map (·.map fun s => Text.Utf8.encode s.toList))) with
  | .error fault => .error (.unwritable fault)
  | .ok text => .ok (String.ofList text)

def writeText (codec : Codec) (rs : List (List String)) : Except CodecFault String :=
  if codec.isTextual then
    .ok (String.ofList (writeRecords codec.charDialect (rs.map (·.map String.toList))))
  else
    codec.writeAsBytes rs

def encode (codec : Codec) (table : Table) : Except CodecFault String :=
  codec.writeText (recordsOfTable table)

end Codec

end TableQuery.Csv
