import GraphDisk.Error
import GraphDisk.Table.Timestamp

/-!
# Fields of a record

Reading a table gives records, and a record has one field for each element at the top of the layout. `Field.ofStored`
says which field a stored value becomes. The three readers `Field.toInt64`, `Field.toDouble` and `Field.toText` give
the value that a shard column needs, and refuse every other field, null above all. Not every field can be written as
text (`Field.text`).
-/

namespace GraphDisk

inductive StoredValue where
  | integer (n : Int64)
  | double (x : Double)
  | bytes (data : ByteArray)
  | flag (b : Bool)

/-- One field of a record. -/
inductive Field where
  | null
  | long (n : Int64)
  | unsignedLong (n : UInt64)
  | timestampMillis (n : Int64)
  | timestampMicros (n : Int64)
  /-- A whole number divided by a power of ten. -/
  | decimal (unscaled : Int) (precision scale : Nat)
  | double (x : Double)
  | string (s : String)
  | bytes (data : ByteArray)
  | group (fields : List (String × Field))

namespace Field

def typeName : Field → String
  | null => "Null"
  | long _ => "Long"
  | unsignedLong _ => "ULong"
  | timestampMillis _ => "TimestampMillis"
  | timestampMicros _ => "TimestampMicros"
  | decimal .. => "Decimal"
  | double _ => "Double"
  | string _ => "Str"
  | bytes _ => "Bytes"
  | group _ => "Group"

/-- The whole number that bytes hold in two's complement, the most significant byte first. -/
def bigEndian (data : ByteArray) : Int :=
  let size : Nat := data.toList.foldl (fun n b => 256 * n + b.toNat) 0
  match data.toList with
  | [] => 0
  | b :: _ => if b.toNat < 128 then size else (size : Int) - Nat.pow 256 data.size

/-- The field that a stored value becomes. Values that are meant as text have to be UTF-8. A whole number or bytes with
a tag that is not named here end the program. The other physical types are those of no column of a shard. -/
def ofStored : PhysicalType → Tag → StoredValue → Except TableFault Field
  | .int64, .plain, .integer n => .ok (.long n)
  | .int64, .signed64, .integer n => .ok (.long n)
  | .int64, .unsigned64, .integer n => .ok (.unsignedLong n.toUInt64)
  | .int64, .timestampMillis, .integer n => .ok (.timestampMillis n)
  | .int64, .timestampMicros, .integer n => .ok (.timestampMicros n)
  | .int64, .decimal precision scale, .integer n => .ok (.decimal n.toInt precision scale)
  | .int64, _, .integer _ => .error .halt
  | .double, _, .double x => .ok (.double x)
  | .byteArray, .plain, .bytes data => .ok (.bytes data)
  | .byteArray, .bson, .bytes data => .ok (.bytes data)
  | .byteArray, .decimal precision scale, .bytes data => .ok (.decimal (bigEndian data) precision scale)
  | .byteArray, .utf8, .bytes data => asText data
  | .byteArray, .json, .bytes data => asText data
  | .byteArray, .enumeration, .bytes data => asText data
  | .byteArray, _, .bytes _ => .error .halt
  | _, _, _ => .error .unreadable
where
  asText (data : ByteArray) : Except TableFault Field :=
    match String.fromUTF8? data with
    | some s => .ok (.string s)
    | none => .error .invalidText

/-! ## Values for shard columns -/

def toInt64 : Field → Except TableFault Int64
  | long n => .ok n
  | f => .error (.access f.typeName "Long")

def toDouble : Field → Except TableFault Double
  | double x => .ok x
  | f => .error (.access f.typeName "Double")

/-- The text of a field; bytes without a tag count as text if they are UTF-8. -/
def toText : Field → Except TableFault String
  | string s => .ok s
  | bytes data =>
    match String.fromUTF8? data with
    | some s => .ok s
    | none => .error .invalidText
  | f => .error (.access f.typeName "Bytes")

/-! ## Text -/

/-- A whole number divided by a power of ten: at least one digit before the point, and the point is always there. Of
the digits that there may be at most, one has to be left for the part before the point. -/
def decimalForm (unscaled : Int) (precision scale : Nat) : Option String :=
  let digits := Nat.toDigits 10 unscaled.natAbs
  let padded := List.replicate (scale + 1 - digits.length) '0' ++ digits
  let whole := padded.length - scale
  if scale < precision then
    some (String.ofList ((if unscaled < 0 then ['-'] else []) ++ padded.take whole ++ '.' :: padded.drop whole))
  else none

mutual

/-- A field in a row listing, if it can be written. Text stands between quotes as it is. -/
def text : Field → Option String
  | null => some "null"
  | long n => some (toString n.toInt)
  | unsignedLong n => some (decimalText n.toNat)
  | timestampMillis n => Timestamp.text (n.toInt.tdiv 1000)
  | timestampMicros n => Timestamp.text (n.toInt.tdiv 1000000)
  | decimal unscaled precision scale => decimalForm unscaled precision scale
  | double x => some x.rowText
  | string s => some ("\"" ++ s ++ "\"")
  | bytes data => some ("[" ++ ", ".intercalate (data.toList.map fun b => decimalText b.toNat) ++ "]")
  | group fields => (texts fields).map fun written => "\x7b" ++ ", ".intercalate written ++ "\x7d"

def texts : List (String × Field) → Option (List String)
  | [] => some []
  | (name, f) :: rest => do
    let written ← f.text
    return (name ++ ": " ++ written) :: (← texts rest)

end

end Field

end GraphDisk
