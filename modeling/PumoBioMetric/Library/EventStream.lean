import Mathlib.Data.List.Infix

/-!
# Server-sent events

The text of an event stream and its reading by an `EventSource`: lines end at a line feed, a
carriage return or both, a line that begins with a colon is a comment, and a blank line
dispatches the data gathered so far.
-/

set_option autoImplicit false

namespace EventStream

/-! ## Reading -/

/-- What the reader keeps between two characters. -/
structure Reader where
  line : List Char
  data : List Char
  events : List (List Char)
  afterReturn : Bool
deriving DecidableEq, Repr

namespace Reader

def initial : Reader := ⟨[], [], [], false⟩

/-- The value of a field: what follows the colon, without one space before it. -/
def fieldValue (line : List Char) : List Char :=
  match (line.dropWhile (· ≠ ':')).drop 1 with
  | ' ' :: value => value
  | value => value

variable (reader : Reader)

def endLine : Reader :=
  match reader.line with
  | [] =>
      if reader.data = [] then reader
      else { reader with data := [], events := reader.events ++ [reader.data.dropLast] }
  | ':' :: _ => { reader with line := [] }
  | line =>
      if line.takeWhile (· ≠ ':') = ['d', 'a', 't', 'a'] then
        { reader with line := [], data := reader.data ++ fieldValue line ++ ['\n'] }
      else { reader with line := [] }

def feed (char : Char) : Reader :=
  if char = '\n' then
    if reader.afterReturn then { reader with afterReturn := false } else reader.endLine
  else if char = '\r' then { reader.endLine with afterReturn := true }
  else { reader with line := reader.line ++ [char], afterReturn := false }

end Reader

def read (text : List Char) : Reader := text.foldl Reader.feed .initial

/-! ## Writing -/

/-- What a server writes at once. -/
inductive Block where
  | event (data : List Char)
  | comment (text : List Char)

namespace Block

def text : Block → List Char
  | event data => 'd' :: 'a' :: 't' :: 'a' :: ':' :: ' ' :: data ++ ['\n', '\n']
  | comment text => ':' :: ' ' :: text ++ ['\n', '\n']

def content : Block → List Char
  | event data => data
  | comment text => text

def data? : Block → Option (List Char)
  | event data => some data
  | comment _ => none

def OneLine (block : Block) : Prop := '\n' ∉ block.content ∧ '\r' ∉ block.content

end Block

/-! ## What is written is read -/

def Reader.AtBlock (reader : Reader) : Prop :=
  reader.line = [] ∧ reader.data = [] ∧ reader.afterReturn = false

theorem feed_line (reader : Reader) (line : List Char) (lineFeed : '\n' ∉ line)
    (carriageReturn : '\r' ∉ line) (going : reader.afterReturn = false) :
    line.foldl Reader.feed reader = { reader with line := reader.line ++ line } := by
  induction line generalizing reader with
  | nil => simp
  | cons char rest ih =>
      obtain ⟨notFeed, restFeed⟩ := not_or.mp (mt List.mem_cons.mpr lineFeed)
      obtain ⟨notReturn, restReturn⟩ := not_or.mp (mt List.mem_cons.mpr carriageReturn)
      have here : reader.feed char =
          { reader with line := reader.line ++ [char], afterReturn := false } := by
        rw [Reader.feed, if_neg (Ne.symm notFeed), if_neg (Ne.symm notReturn)]
      rw [List.foldl_cons, here, ih _ restFeed restReturn rfl]
      simp [going]

/-- A block leaves the reader at the next one, with the event that it carries. -/
theorem feed_block {reader : Reader} (atBlock : reader.AtBlock) {block : Block}
    (oneLine : block.OneLine) :
    block.text.foldl Reader.feed reader =
      { reader with events := reader.events ++ block.data?.toList } := by
  obtain ⟨line, data, events, afterReturn⟩ := reader
  obtain ⟨rfl, rfl, rfl⟩ := atBlock
  obtain ⟨lineFeed, carriageReturn⟩ := oneLine
  cases block with
  | event content =>
      have written := feed_line ⟨[], [], events, false⟩
        ('d' :: 'a' :: 't' :: 'a' :: ':' :: ' ' :: content)
        (by simpa [Block.content] using lineFeed)
        (by simpa [Block.content] using carriageReturn) rfl
      rw [Block.text, List.foldl_append, written]
      simp [Reader.feed, Reader.endLine, Reader.fieldValue, Block.data?]
  | comment content =>
      have written := feed_line ⟨[], [], events, false⟩ (':' :: ' ' :: content)
        (by simpa [Block.content] using lineFeed)
        (by simpa [Block.content] using carriageReturn) rfl
      rw [Block.text, List.foldl_append, written]
      simp [Reader.feed, Reader.endLine, Block.data?]

theorem feed_blocks {blocks : List Block} (oneLine : ∀ block ∈ blocks, block.OneLine)
    {reader : Reader} (atBlock : reader.AtBlock) :
    (blocks.flatMap Block.text).foldl Reader.feed reader =
      { reader with events := reader.events ++ blocks.filterMap Block.data? } := by
  induction blocks generalizing reader with
  | nil => simp
  | cons block rest ih =>
      obtain ⟨here, later⟩ := List.forall_mem_cons.mp oneLine
      have onward : Reader.AtBlock { reader with events := reader.events ++ block.data?.toList } :=
        atBlock
      rw [List.flatMap_cons, List.foldl_append, feed_block atBlock here, ih later onward]
      cases carried : block.data? <;> simp [carried]

theorem read_blocks {blocks : List Block} (oneLine : ∀ block ∈ blocks, block.OneLine) :
    (read (blocks.flatMap Block.text)).events = blocks.filterMap Block.data? := by
  rw [read, feed_blocks oneLine ⟨rfl, rfl, rfl⟩]
  rfl

/-! ## What has been read stays read -/

theorem endLine_events (reader : Reader) : reader.events <+: reader.endLine.events := by
  unfold Reader.endLine
  split
  · split
    · exact List.prefix_rfl
    · exact List.prefix_append _ _
  · exact List.prefix_rfl
  · split <;> exact List.prefix_rfl

theorem feed_events (reader : Reader) (char : Char) :
    reader.events <+: (reader.feed char).events := by
  unfold Reader.feed
  split
  · split
    · exact List.prefix_rfl
    · exact endLine_events reader
  · split
    · exact endLine_events reader
    · exact List.prefix_rfl

theorem foldl_feed_events (text : List Char) (reader : Reader) :
    reader.events <+: (text.foldl Reader.feed reader).events := by
  induction text generalizing reader with
  | nil => exact List.prefix_rfl
  | cons char rest ih => exact (feed_events reader char).trans (ih _)

theorem read_of_part {received text : List Char} (arrived : received <+: text) :
    (read received).events <+: (read text).events := by
  obtain ⟨rest, rfl⟩ := arrived
  rw [read, read, List.foldl_append]
  exact foldl_feed_events rest _

end EventStream
