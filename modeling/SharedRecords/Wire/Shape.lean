import SharedRecords.Number.Total
import SharedRecords.Schema
import SharedRecords.Wire.Reader

/-!
The composite values of the wire format. A shape says what is written; its values are the
library's own types, and the chunks of a value are what a reader of the same shape takes apart.
-/

namespace SharedRecords.Wire

def sequenceChunks {α : Type} (chunks : α → Message) (items : List α) : Message :=
  .word (UInt64.ofNat items.length) :: items.flatMap chunks

def textsChunks (texts : List String) : Message := sequenceChunks (fun text => [.text text]) texts

def pairChunks (pair : Pair) : Message := [.text pair.field, .text pair.value]

def tableChunks (table : Table) : Message := .text table.name :: textsChunks table.columns

def schemaChunks (schema : Schema) : Message :=
  sequenceChunks tableChunks schema.tables ++ [.text schema.location]

def recordChunks (record : Record) : Message := sequenceChunks pairChunks record

def rowsChunks (rows : Rows) : Message := sequenceChunks recordChunks rows

namespace Reader

def pair : Reader Pair := do
  let field ← text
  let value ← text
  pure ⟨field, value⟩

def table : Reader Table := do
  let name ← text
  let columns ← sequence text
  pure ⟨name, columns⟩

def schema : Reader Schema := do
  let tables ← sequence table
  let location ← text
  pure ⟨tables, location⟩

def record : Reader Record := sequence pair

def rows : Reader Rows := sequence record

end Reader

inductive Shape where
  | word | text | pair | table | schema
  | sequence (element : Shape)
  deriving DecidableEq, Repr, Inhabited

namespace Shape

@[reducible] def Value : Shape → Type
  | word => UInt64
  | text => String
  | pair => Pair
  | table => Table
  | schema => Schema
  | sequence element => List element.Value

def chunks : (shape : Shape) → shape.Value → Message
  | word, value => [.word value]
  | text, value => [.text value]
  | pair, value => pairChunks value
  | table, value => tableChunks value
  | schema, value => schemaChunks value
  | sequence element, items => sequenceChunks element.chunks items

def reader : (shape : Shape) → Reader shape.Value
  | word => Reader.word
  | text => Reader.text
  | pair => Reader.pair
  | table => Reader.table
  | schema => Reader.schema
  | sequence element => Reader.sequence element.reader

/-- The fewest bytes a value of the shape takes. -/
def minLength : Shape → Nat
  | word | text | sequence _ => wordLength
  | pair | table | schema => wordLength + wordLength

def textLength (text : String) : Nat := wordLength + text.utf8ByteSize

def pairLength (pair : Pair) : Nat := textLength pair.field + textLength pair.value

def tableLength (table : Table) : Nat :=
  textLength table.name + (wordLength + Number.total (table.columns.map textLength))

def schemaLength (schema : Schema) : Nat :=
  wordLength + Number.total (schema.tables.map tableLength) + textLength schema.location

def encodedLength : (shape : Shape) → shape.Value → Nat
  | word, _ => wordLength
  | text, value => textLength value
  | pair, value => pairLength value
  | table, value => tableLength value
  | schema, value => schemaLength value
  | sequence element, items => wordLength + Number.total (items.map element.encodedLength)

abbrev record : Shape := sequence pair

abbrev rows : Shape := sequence record

end Shape

/-- A value together with its shape. -/
structure Item where
  shape : Shape
  value : shape.Value

namespace Item

def chunks (item : Item) : Message := item.shape.chunks item.value

def encodedLength (item : Item) : Nat := item.shape.encodedLength item.value

end Item

def Reader.items : List Shape → Reader (List Item)
  | [] => pure []
  | shape :: rest => do
    let value ← shape.reader
    let others ← Reader.items rest
    pure (⟨shape, value⟩ :: others)

end SharedRecords.Wire
