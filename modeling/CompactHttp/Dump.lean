import CompactHttp.Framing

/-! # Annotated dumps

A dump shows a message as rows of bytes, each with its offset and what the bytes mean.
Broken input is shown as far as it can be understood: a length that cannot be read takes
all that is left into its row, and a part that is cut off is marked. The rows hold the
bytes of the message from its start on, in order and without gaps, so an offset is the
number of bytes in the rows before it.
-/

namespace CompactHttp

namespace Dump

/-- A line of the dump before it is laid out. -/
inductive Item where
  /-- Bytes and what they mean. -/
  | row (bytes : Bytes) (meaning : String)
  /-- An empty line. -/
  | gap
deriving DecidableEq, Repr

/-- The bytes an item covers. -/
def Item.bytes : Item → Bytes
  | row bytes _ => bytes
  | gap => []

/-- How far a message has been shown: the items so far of some part, the bytes after them,
and whether the part was whole. -/
structure Progress where
  items : List Item
  rest : Bytes
  whole : Bool

/-- How many characters of a text are shown. -/
def previewLength : Nat := 60

/-- A text in quotes, cut short if it is long. -/
def preview (bytes : Bytes) : String :=
  let chars := (Utf8.decodeLossy bytes).toList
  if previewLength < chars.length then
    quoted (String.ofList (chars.take previewLength)) ++ "..."
  else quoted (String.ofList chars)

/-- A byte as it is written in a meaning. -/
def byteName (byte : UInt8) : String := "0x" ++ hexPadded 2 byte.toNat

/-- Shows a length, and gives it if it can be read. -/
def showLength (label : String) (data : Bytes) : Item × Option Nat × Bytes :=
  match Varint.decode data with
  | .ok (length, rest) =>
    (.row (data.take (data.length - rest.length))
      (label ++ " (varint: " ++ toString length ++ ")"), some length, rest)
  | .error fault =>
    (.row data (label ++ ": " ++ (FormatError.ofVarint fault).message), none, [])

/-- Shows a text with its length. -/
def showText (label : String) (data : Bytes) : Progress :=
  match showLength (label ++ " length") data with
  | (item, none, rest) => ⟨[item], rest, false⟩
  | (item, some length, rest) =>
    let bytes := rest.take length
    let meaning := label ++ ": " ++ preview bytes
    if bytes.length < length then
      ⟨[item, .row bytes (meaning ++ " [truncated, " ++ toString length ++ " declared]")],
        rest.drop length, false⟩
    else ⟨[item, .row bytes meaning], rest.drop length, true⟩

/-- Shows a header that starts with the byte `id`, which is at most `available` bytes before
the end of its block together with what follows it there. -/
def showHeader (table : HeaderTable) (available : Nat) (id : UInt8) (rest : Bytes) : Progress :=
  if id = HeaderTable.customId then
    let name := showText "  Name" rest
    if name.whole then
      let value := showText "  Value" name.rest
      ⟨.row [id] "Custom header" :: (name.items ++ value.items), value.rest, value.whole⟩
    else ⟨.row [id] "Custom header" :: name.items, name.rest, false⟩
  else
    let label := "Header " ++ byteName id ++ ": "
    match table.row? id with
    | some row =>
      match row.value with
      | some value => ⟨[.row [id] (label ++ row.name ++ ": " ++ value)], rest, true⟩
      | none =>
        let value := showText "  Value" rest
        ⟨.row [id] (label ++ row.name ++ " (name only)") :: value.items, value.rest, value.whole⟩
    | none =>
      ⟨[.row (id :: rest.take (available - 1)) ("Unknown header ID " ++ byteName id)],
        rest.drop (available - 1), false⟩

/-- Showing a length leaves no more bytes than there were. -/
theorem rest_showLength (label : String) (data : Bytes) :
    (showLength label data).2.2.length ≤ data.length := by
  unfold showLength
  split
  · next length rest decoded => exact Nat.le_of_lt (Varint.decode_shortens decoded)
  · exact Nat.zero_le _

theorem rest_showText (label : String) (data : Bytes) :
    (showText label data).rest.length ≤ data.length := by
  have shorter := rest_showLength (label ++ " length") data
  unfold showText
  split
  · next item rest shown => simpa [shown] using shorter
  · next item length rest shown =>
    simp only [shown] at shorter
    dsimp only
    split <;> simp only [List.length_drop] <;> omega

theorem rest_showHeader (table : HeaderTable) (available : Nat) (id : UInt8) (data : Bytes) :
    (showHeader table available id data).rest.length ≤ data.length := by
  unfold showHeader
  have name := rest_showText "  Name" data
  have value := rest_showText "  Value" (showText "  Name" data).rest
  have alone := rest_showText "  Value" data
  split
  · dsimp only
    split <;> dsimp only <;> omega
  · dsimp only
    split
    · split
      · exact Nat.le_refl _
      · exact alone
    · simp only [List.length_drop]
      omega

/-- Shows headers until at most `beyond` bytes are left, or one of them is broken. -/
def showHeaders (table : HeaderTable) (beyond : Nat) : Bytes → List Item × Bytes
  | [] => ([], [])
  | id :: data =>
    if beyond < data.length + 1 then
      let shown := showHeader table (data.length + 1 - beyond) id data
      if shown.whole then
        let (items, rest) := showHeaders table beyond shown.rest
        (shown.items ++ items, rest)
      else (shown.items, shown.rest)
    else ([], id :: data)
termination_by data => data.length
decreasing_by
  have := rest_showHeader table (data.length + 1 - beyond) id data
  simp only [List.length_cons]
  omega

/-- Shows the header block with its length. A header that runs past the end of the block is
shown whole. -/
def showBlock (table : HeaderTable) (data : Bytes) : List Item × Bytes :=
  match showLength "Headers length" data with
  | (item, none, rest) => ([.gap, item], rest)
  | (item, some length, rest) =>
    let (items, rest) := showHeaders table (rest.length - length) rest
    (.gap :: item :: items, rest)

/-- Shows the body with its length. -/
def showBody (data : Bytes) : List Item × Bytes :=
  match showLength "Body length" data with
  | (item, none, rest) => ([.gap, item], rest)
  | (item, some length, rest) =>
    if length = 0 then ([.gap, item], rest)
    else
      let bytes := rest.take length
      let size :=
        if bytes.length < length then toString bytes.length ++ " of " ++ toString length
        else toString length
      ([.gap, item, .row bytes ("Body (" ++ size ++ " bytes)")], rest.drop length)

/-- What the first byte of a message says. -/
def firstMeaning (kind : MessageKind) (first : UInt8) : String :=
  let about :=
    match kind with
    | .request =>
      let code := Request.methodBits first
      match Method.ofCode? code with
      | some method => "method=" ++ method.name
      | none => "method=INVALID(" ++ toString code.toNat ++ ")"
    | .response =>
      let status := Status.ofCompact (first &&& 0x3F)
      "status=" ++ toString status.toNat ++ " " ++ Status.reason status
  "First byte (version=" ++ toString (versionBits first).toNat ++ ", " ++ about ++ ")"

/-- Shows the texts in front of the header block: host and path of a request. Each is shown
even when the one before it was broken. -/
def showTarget (kind : MessageKind) (data : Bytes) : List Item × Bytes :=
  match kind with
  | .request =>
    let host := showText "Host" data
    let path := showText "Path" host.rest
    (host.items ++ path.items, path.rest)
  | .response => ([], data)

/-- The items of a message, from its first byte on. -/
def items (kind : MessageKind) : Bytes → List Item
  | [] => []
  | first :: rest =>
    let (target, rest) := showTarget kind rest
    let (block, rest) := showBlock kind.headerTable rest
    let (body, _) := showBody rest
    .row [first] (firstMeaning kind first) :: (target ++ block ++ body)

/-- How many bytes the items cover. -/
def covered (items : List Item) : Nat := (items.flatMap Item.bytes).length

/-- How wide the column of bytes is. -/
def columnWidth : Nat := 49

/-- How many bytes stand in one line. -/
def lineSize : Nat := 16

/-- How many bytes of a row are shown. -/
def shownSize : Nat := 128

/-- Bytes in base sixteen, with spaces between them. -/
def hexBytes (bytes : Bytes) : String :=
  " ".intercalate (bytes.map fun byte => hexPadded 2 byte.toNat)

/-- A text filled up with spaces. -/
def padded (width : Nat) (text : String) : String :=
  text ++ String.ofList (List.replicate (width - text.length) ' ')

/-- Bytes cut into lines. -/
def chunks (bytes : Bytes) : List Bytes :=
  if bytes.isEmpty then [] else bytes.take lineSize :: chunks (bytes.drop lineSize)
termination_by bytes.length
decreasing_by
  have size : lineSize = 16 := rfl
  cases bytes with
  | nil => simp_all
  | cons byte rest => simp only [List.length_drop, List.length_cons]; omega

/-- A row laid out at its offset. -/
def layoutRow (offset : Nat) (bytes : Bytes) (meaning : String) : String :=
  let lines := (chunks (bytes.take shownSize)).map hexBytes
  let first :=
    "0x" ++ hexPadded 4 offset ++ "  " ++ padded columnWidth (lines.headD "") ++ meaning ++ "\n"
  let further := lines.tail.map fun line => "        " ++ line ++ "\n"
  let more :=
    if shownSize < bytes.length then
      "        ... " ++ toString bytes.length ++ " bytes total, " ++ toString shownSize ++
        " shown\n"
    else ""
  first ++ String.join further ++ more

/-- Items laid out one after another, the first of them at an offset. -/
def layout (offset : Nat) : List Item → String
  | [] => ""
  | .gap :: items => "\n" ++ layout offset items
  | .row bytes meaning :: items =>
    layoutRow offset bytes meaning ++ layout (offset + bytes.length) items

/-- The dump of a message. -/
def render (kind : MessageKind) (data : Bytes) : String :=
  if data.isEmpty then "(empty)\n"
  else
    let items := items kind data
    "OFFSET  " ++ padded columnWidth "BYTES" ++ "DESCRIPTION\n" ++ layout 0 items ++
      "\nSummary: parsed " ++ toString (covered items) ++ " / " ++ toString data.length ++
      " bytes\n"

end Dump

end CompactHttp
