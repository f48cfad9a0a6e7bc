import JsonSchema.Archive.Inflate
import JsonSchema.Text.Utf8

/-!
# Zip archives

An archive is a file whose end record points to a directory of entries. Each entry has a name and
the place of its data, which are stored as they are or deflated. `Archive.read` gives the content of
an entry by name and `Archive.write` makes an archive of stored entries.
-/

namespace JsonSchema.Archive

/-- Why an entry cannot be read. -/
inductive Fault
  /-- The file is a directory. -/
  | unreadable
  /-- The file has no end record. -/
  | noEndRecord
  /-- The directory of entries is damaged. -/
  | badDirectory
  /-- No entry has the name. -/
  | noEntry
  /-- The data of the entry are damaged. -/
  | badData
  deriving DecidableEq

/-- A fault in words. -/
def Fault.message : Fault → String
  | unreadable => "i/o error"
  | noEndRecord => "invalid Zip archive: Could not find EOCD"
  | badDirectory => "invalid Zip archive: Invalid central directory header"
  | noEntry => "specified file not found in archive"
  | badData => "invalid Zip archive: Invalid local file header"

/-- The number that some bytes write, the lowest byte first. -/
def number (bytes : List UInt8) : Nat :=
  bytes.foldr (fun b n => n * 256 + b.toNat) 0

/-- The number written by the `size` bytes at `place`. -/
def field (bytes : List UInt8) (place size : Nat) : Nat :=
  number ((bytes.drop place).take size)

/-- A number as `size` bytes, the lowest first. -/
def bytesOf : Nat → Nat → List UInt8
  | 0, _ => []
  | size + 1, n => n.toUInt8 :: bytesOf size (n / 256)

/-- The signature of the end record. -/
def endSignature : Nat := 0x06054B50

/-- The signature of an entry of the directory. -/
def directorySignature : Nat := 0x02014B50

/-- The signature before the data of an entry. -/
def dataSignature : Nat := 0x04034B50

/-- One step of the checksum for each of eight bits. -/
def checksumByte (sum : UInt32) (byte : UInt8) : UInt32 :=
  let step (sum : UInt32) : UInt32 :=
    if sum &&& 1 = 1 then (sum >>> 1) ^^^ 0xEDB88320 else sum >>> 1
  (List.range 8).foldl (fun sum _ => step sum) (sum ^^^ byte.toUInt32)

/-- The cyclic checksum of some bytes, of 32 bits. -/
def checksum (bytes : List UInt8) : Nat :=
  (bytes.foldl checksumByte 0xFFFFFFFF ^^^ 0xFFFFFFFF).toNat

/-- An entry of the directory. -/
structure Entry where
  name : List UInt8
  method : Nat
  checksum : Nat
  packed : Nat
  place : Nat

/-- The bytes from the end record on: the last place with its signature. -/
def endRecord? : List UInt8 → Option (List UInt8)
  | [] => none
  | b :: rest =>
    match endRecord? rest with
    | some record => some record
    | none => if 22 ≤ rest.length + 1 && field (b :: rest) 0 4 == endSignature then some (b :: rest)
      else none

/-- Reads `n` entries of a directory. -/
def entries? : Nat → List UInt8 → Option (List Entry)
  | 0, _ => some []
  | n + 1, bytes =>
    if field bytes 0 4 ≠ directorySignature then none
    else
      let nameSize := field bytes 28 2
      let entry : Entry :=
        { name := (bytes.drop 46).take nameSize
          method := field bytes 10 2
          checksum := field bytes 16 4
          packed := field bytes 20 4
          place := field bytes 42 4 }
      (entries? n (bytes.drop (46 + nameSize + field bytes 30 2 + field bytes 32 2))).map
        (entry :: ·)

/-- The directory of an archive. -/
def directory (bytes : List UInt8) : Except Fault (List Entry) :=
  match endRecord? bytes with
  | none => .error .noEndRecord
  | some record =>
    match entries? (field record 10 2) (bytes.drop (field record 16 4)) with
    | some entries => .ok entries
    | none => .error .badDirectory

/-- The content of an entry. -/
def content (bytes : List UInt8) (entry : Entry) : Except Fault (List UInt8) :=
  let header := bytes.drop entry.place
  if field header 0 4 ≠ dataSignature then .error .badData
  else
    let data := (header.drop (30 + field header 26 2 + field header 28 2)).take entry.packed
    let expanded :=
      match entry.method with
      | 0 => some data
      | 8 => Inflate.bytes? data
      | _ => none
    match expanded with
    | some content => if checksum content = entry.checksum then .ok content else .error .badData
    | none => .error .badData

/-- The content of the entry called `name`; the last one, if several are. -/
def read (bytes : List UInt8) (name : List Char) : Except Fault (List UInt8) := do
  match (← directory bytes).reverse.find? fun e => Utf8.decodeLossy e.name == name with
  | some entry => content bytes entry
  | none => .error .noEntry

/-- The part that the two headers of a stored entry share: from the version to the name size. -/
def sharedHeader (name content : List UInt8) : List UInt8 :=
  bytesOf 2 20 ++ bytesOf 2 0x800 ++ bytesOf 2 0 ++ bytesOf 4 0x00210000 ++
    bytesOf 4 (checksum content) ++ bytesOf 4 content.length ++ bytesOf 4 content.length ++
    bytesOf 2 name.length

/-- The data part of a stored entry. -/
def dataPart (name content : List UInt8) : List UInt8 :=
  bytesOf 4 dataSignature ++ sharedHeader name content ++ bytesOf 2 0 ++ name ++ content

/-- The directory part of a stored entry whose data part is at `place`. -/
def directoryPart (place : Nat) (name content : List UInt8) : List UInt8 :=
  bytesOf 4 directorySignature ++ bytesOf 2 20 ++ sharedHeader name content ++
    List.replicate 12 0 ++ bytesOf 4 place ++ name

/-- The data parts of stored entries, the first of which is at `place`, and their directory. -/
def parts (place : Nat) : List (List Char × List UInt8) → List UInt8 × List UInt8
  | [] => ([], [])
  | (name, content) :: rest =>
    let name := Utf8.encode name
    let data := dataPart name content
    let (more, directory) := parts (place + data.length) rest
    (data ++ more, directoryPart place name content ++ directory)

/-- An archive of stored entries. -/
def write (entries : List (List Char × List UInt8)) : List UInt8 :=
  let (data, directory) := parts 0 entries
  data ++ directory ++ bytesOf 4 endSignature ++ bytesOf 4 0 ++ bytesOf 2 entries.length ++
    bytesOf 2 entries.length ++ bytesOf 4 directory.length ++ bytesOf 4 data.length ++ bytesOf 2 0

end JsonSchema.Archive
