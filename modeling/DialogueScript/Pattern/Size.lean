import DialogueScript.Pattern.Shape

/-!
# The room that patterns take

A pattern is laid out as an automaton over the bytes of UTF-8, once to be run forwards and once to
be run backwards, and neither may take more room than `maxRoom`. Counted repetition lays its body
out again and again, so that a short pattern can be too large to be used.

The ways from byte to byte through a large set of characters have much in common. Running forwards,
nodes with equal ways on are shared; running backwards, rows that begin alike are. What can be
shared is looked up in a table in which each entry has one slot, and a new entry takes the slot of
an old one.
-/

namespace DialogueScript.Pattern

open Alphabet

/-- The room of one node of the automaton. -/
def nodeRoom : Nat := 32

/-- The room of a way out of a node that asks for a byte. -/
def edgeRoom : Nat := 8

/-- The room of a way out of a fork, which asks for nothing. -/
def forkRoom : Nat := 4

/-- The most room that an automaton may take. -/
def maxRoom : Nat := 10 * Nat.pow 2 20

/-! ## Estimates -/

/-- An upper bound on the number of characters in a set. -/
def CharSet.countBound : CharSet → Nat
  | .none => 0
  | .range first last => last.toNat + 1 - first.toNat
  | .oneOf chars => chars.length
  | .table ranges => ranges.foldr (fun range n => range.2 + 1 - range.1 + n) 0
  | .space => 25
  | .folded set => 4 * set.countBound
  | .union left right | .symDiff left right => left.countBound + right.countBound
  | .inter left right => min left.countBound right.countBound
  | .diff left _ => left.countBound
  | _ => 0x110000

/-- An upper bound on the number of rows of bytes of a set. A range has 16 rows at most, and fewer
than 3000 characters differ from others in case only. -/
def CharSet.rowBound : CharSet → Nat
  | .none => 0
  | .range first last => if first = last then 1 else 16
  | .oneOf chars => chars.length
  | .table ranges => 16 * ranges.length
  | .digit => 16 * decimalRanges.length
  | .space => 16 * blankRanges.length
  | .word => 16 * wordRanges.length
  | .folded set => set.rowBound + min (3 * set.countBound) 3000
  | .complement set => set.rowBound + 32
  | .union left right | .inter left right | .diff left right | .symDiff left right =>
    left.rowBound + right.rowBound + 32

mutual

/-- An upper bound on the room of an expression. -/
def Regex.roomBound : Regex → Nat
  | .empty | .look _ => nodeRoom
  | .one set => 2 * nodeRoom + 160 * set.rowBound
  | .times least most _ body =>
    max (max least 1) (most.getD 0) * (body.roomBound + 64) + 128
  | .group _ body => body.roomBound + 128
  | .concat parts => roomBoundOfAll parts
  | .alternation branches => roomBoundOfAll branches + 128

/-- An upper bound on the room of several expressions. -/
def roomBoundOfAll : List Regex → Nat
  | [] => nodeRoom
  | regex :: rest => regex.roomBound + 64 + roomBoundOfAll rest

end

/-! ## Laying out -/

/-- What has been laid out: the number of nodes, and the room of the ways out of them. -/
structure Room where
  nodes : Nat
  ways : Nat
  deriving DecidableEq, Repr

namespace Room

/-- The room in all. -/
def total (room : Room) : Nat := nodeRoom * room.nodes + room.ways

/-- Adds nodes and ways, if there is room. -/
def add (room : Room) (nodes ways : Nat) : Option Room :=
  let more : Room := ⟨room.nodes + nodes, room.ways + ways⟩
  if more.total ≤ maxRoom then some more else none

end Room

/-- What has been laid out, and whether the last part ends in a fork, to which the way on is added
when the next part is linked to it. -/
structure Laid where
  room : Room
  inFork : Bool

/-- The room when something is linked to the end of the last part. -/
def Laid.linked (laid : Laid) : Option Room :=
  if laid.inFork then laid.room.add 0 forkRoom else some laid.room

/-! ### Sets -/

/-- The slot of a row of numbers in a table with so many slots. -/
def slotOf (slots : Nat) (numbers : List Nat) : Nat :=
  let mixed := numbers.foldl (fun (h : UInt64) n => (h ^^^ n.toUInt64) * 1099511628211)
    14695981039346656037
  mixed.toNat % slots

/-- A way out of a node: for a byte of the range, to the node with the number `target`. -/
structure Edge where
  bytes : ByteRange
  target : Nat
  deriving DecidableEq

/-- Nodes that can be shared, each with its number, and what has been laid out. -/
structure Shared (α : Type) where
  table : Array (Option (α × Nat))
  room : Room

/-- An empty table with so many slots. -/
def Shared.start {α : Type} (slots : Nat) (room : Room) : Shared α :=
  ⟨Array.replicate slots none, room⟩

/-- The number of the node that is known by `key`; if there is none, it is laid out. -/
def Shared.node {α : Type} [DecidableEq α] (shared : Shared α) (slot : Nat) (key : α)
    (ways : Nat) : Nat × Shared α :=
  let known := match shared.table[slot]? with
    | some (some (other, number)) => if other = key then some number else none
    | _ => none
  match known with
  | some number => (number, shared)
  | none =>
    let ⟨table, room⟩ := shared
    (room.nodes, ⟨table.setIfInBounds slot (some (key, room.nodes)),
      ⟨room.nodes + 1, room.ways + ways⟩⟩)

/-- Rows in groups: those in a row that begin alike, without their beginning. -/
def groupRows : List ByteRow → List (ByteRange × List ByteRow)
  | [] => []
  | [] :: rest => groupRows rest
  | (range :: tail) :: rest =>
    match groupRows rest with
    | (range', tails) :: groups =>
      if range = range' then (range, tail :: tails) :: groups
      else (range, [tail]) :: (range', tails) :: groups
    | [] => [(range, [tail])]

/-- The node from which rows lead on to the node `finish`, with all that lies between. Rows have
four bytes at most. -/
def layForward (finish : Nat) : Nat → List ByteRow → Shared (List Edge) →
    Nat × Shared (List Edge)
  | 0, _, shared => (finish, shared)
  | fuel + 1, rows, shared =>
    let (edges, shared) := (groupRows rows).foldl
      (fun (edges, shared) (range, tails) =>
        let (target, shared) :=
          if tails.all (·.isEmpty) then (finish, shared)
          else layForward finish fuel tails shared
        (⟨range, target⟩ :: edges, shared)) (([] : List Edge), shared)
    let edges := edges.reverse
    let slot := slotOf shared.table.size
      (edges.flatMap fun edge => [edge.bytes.first, edge.bytes.last, edge.target])
    shared.node slot edges (edgeRoom * edges.length)

/-- Lays out a row backwards, its first byte next to the node `finish`. -/
def layBackward (finish : Nat) (row : ByteRow) (shared : Shared Edge) : Shared Edge :=
  (row.foldl (fun (target, shared) range =>
    let slot := slotOf shared.table.size [target, range.first, range.last]
    shared.node slot ⟨range, target⟩ 0) (finish, shared)).2

/-- Lays out a set of characters with the given rows. In ASCII one node has all the ways; other
sets end in a node of their own, and running backwards start in a fork. -/
def laySet (backwards isAscii : Bool) (rows : List ByteRow) (room : Room) : Option Room :=
  if isAscii then room.add 2 (edgeRoom * rows.length)
  else if backwards then do
    let start ← room.add 2 (forkRoom * rows.length)
    let laid := rows.foldl (fun shared row => layBackward (room.nodes + 1) row shared)
      (Shared.start 1000 start)
    laid.room.add 0 0
  else do
    let start ← room.add 1 0
    let laid := (layForward room.nodes 4 rows (Shared.start 10000 start)).2
    laid.room.add 0 0

/-! ### Literals -/

/-- The words up to each end of a word, and the words behind the last one. Another end is of no
account when nothing has gone on yet. -/
def cutAtEnds : List (List (List Nat)) → List (List Nat) → List (List Nat) →
    List (List (List Nat))
  | chunks, chunk, [] => (chunk.reverse :: chunks).reverse
  | chunks, chunk, [] :: rest =>
    if chunk.isEmpty && !chunks.isEmpty && chunks.all (·.isEmpty) then
      cutAtEnds chunks chunk rest
    else cutAtEnds (chunk.reverse :: chunks) [] rest
  | chunks, chunk, word :: rest => cutAtEnds chunks (word :: chunk) rest

/-- What is left of the words behind each byte with which one of them begins. -/
def tailsOf (words : List (List Nat)) : List (List (List Nat)) :=
  (words.filterMap (·.head?)).eraseDups.map fun byte =>
    words.filterMap fun word => if word.head? = some byte then word.tail? else none

/-- Lays out words that share their beginnings. -/
def layWords : Nat → List (List Nat) → Room → Option Room
  | 0, _, room => some room
  | fuel + 1, words, room => do
    let chunks := (cutAtEnds [] [] words).map tailsOf
    let room ← chunks.foldlM (fun room groups => do
      let room ← groups.foldlM (fun room tails =>
        if tails.all (·.isEmpty) then some room else layWords fuel tails room) room
      match groups.length with
      | 0 => some room
      | 1 => room.add 1 0
      | count => room.add 1 (edgeRoom * count)) room
    let ways := chunks.length - 1 + chunks.countP (!·.isEmpty)
    room.add 1 (forkRoom * ways)

/-- The bytes of the branches if all of them are literals. -/
def wordsOf? (branches : List Shape) : Option (List (List Nat)) :=
  branches.mapM fun
    | .literal codes => some (codes.flatMap bytesOf)
    | _ => none

/-! ### Shapes -/

/-- Lays out more copies, each behind the one before. -/
def layCopies (lay : Room → Option Laid) : Nat → Laid → Option Laid
  | 0, laid => some laid
  | count + 1, laid =>
    match laid.linked.bind lay with
    | some laid => layCopies lay count laid
    | none => none

/-- Lays out so many copies; none at all is a node of its own. -/
def layExactly (lay : Room → Option Laid) (count : Nat) (room : Room) : Option Laid :=
  match count with
  | 0 => (room.add 1 0).map (⟨·, false⟩)
  | count + 1 => (lay room).bind (layCopies lay count)

/-- Lays out more copies that may be left out, each behind a fork that is linked to the one
before. -/
def layOptional (lay : Room → Option Laid) : Nat → Laid → Option Laid
  | 0, laid => some laid
  | count + 1, laid =>
    match (do lay (← (← laid.linked).add 1 (2 * forkRoom))) with
    | some laid => layOptional lay count laid
    | none => none

/-- Lays out a repetition. -/
def layTimes (lay : Room → Option Laid) (takes : Bool) (least : Nat) (most : Option Nat)
    (room : Room) : Option Laid :=
  match least, most with
  | 0, some 1 => do
    let laid ← lay (← room.add 1 (2 * forkRoom))
    return ⟨← (← laid.linked).add 1 0, false⟩
  | 0, none =>
    if takes then do
      let laid ← lay (← room.add 1 forkRoom)
      return ⟨← laid.linked, true⟩
    else do
      let laid ← lay room
      return ⟨← (← laid.linked).add 3 (4 * forkRoom), false⟩
  | least + 1, none => do
    let laid ← layExactly lay (least + 1) room
    return ⟨← (← laid.linked).add 1 forkRoom, true⟩
  | least, some most => do
    let laid ← layExactly lay least room
    if least = most then return laid
    let laid ← layOptional lay (most - least) { laid with room := ← laid.room.add 1 0 }
    return ⟨← laid.linked, false⟩

mutual

/-- Lays out a shape. Running backwards, nothing is captured. -/
def Shape.lay (backwards : Bool) : Shape → Room → Option Laid
  | .empty, room => (room.add 1 0).map (⟨·, false⟩)
  | .literal codes, room => (room.add (codes.flatMap bytesOf).length 0).map (⟨·, false⟩)
  | .set ranges, room =>
    let rows := rowsOfRanges ranges
    (laySet backwards (ranges.all (·.2 < 0x80)) rows room).map (⟨·, false⟩)
  | .look _, room => (room.add 1 0).map (⟨·, false⟩)
  | .times least most _ body, room =>
    layTimes (body.lay backwards) (body.leastLength?.getD 0 != 0) least most room
  | .capture body, room =>
    if backwards then body.lay backwards room
    else do
      let laid ← body.lay backwards (← room.add 1 0)
      return ⟨← (← laid.linked).add 1 0, false⟩
  | .concat parts, room => if backwards then layLastFirst parts room else layInRow parts room
  | .alternation branches, room =>
    match wordsOf? branches with
    | some words => do
      let words := if backwards then words.map (·.reverse) else words
      let longest := words.foldl (fun n word => max n word.length) 0
      let room ← layWords (longest + 1) words (← room.add 1 0)
      return ⟨room, false⟩
    | none => (layBranches backwards 0 branches room).map (⟨·, false⟩)

/-- Lays out parts, the first one first. -/
def layInRow : List Shape → Room → Option Laid
  | [], room => (room.add 1 0).map (⟨·, false⟩)
  | [shape], room => shape.lay false room
  | shape :: rest, room => do layInRow rest (← (← shape.lay false room).linked)

/-- Lays out parts, the last one first. -/
def layLastFirst : List Shape → Room → Option Laid
  | [], room => (room.add 1 0).map (⟨·, false⟩)
  | [shape], room => shape.lay true room
  | shape :: rest, room => do shape.lay true (← (← layLastFirst rest room).linked)

/-- Lays out branches between a fork and a node in which they meet. These two come behind the
second branch. -/
def layBranches (backwards : Bool) : Nat → List Shape → Room → Option Room
  | _, [], room => some room
  | count, shape :: rest, room => do
    let laid ← shape.lay backwards room
    let room ← (← laid.linked).add (if count = 1 then 2 else 0) forkRoom
    layBranches backwards (count + 1) rest room

end

/-- Is there room for the shape? Unless it holds on to the start of the text, a loop over any byte
comes first. -/
def Shape.fits (backwards : Bool) (shape : Shape) : Bool :=
  let held := if backwards then shape.endsWith .finish else shape.startsWith .start
  let room : Option Room := do
    let start ← if held then Room.add ⟨0, 0⟩ 1 0 else Room.add ⟨0, 0⟩ 3 (edgeRoom + 2 * forkRoom)
    let laid ← if backwards then shape.lay true start else (Shape.capture shape).lay false start
    (← laid.linked).add 1 0
  room.isSome

/-- Is there room for the expression? What is small at first sight is not laid out. -/
def Regex.fits (regex : Regex) : Bool :=
  regex.roomBound + 1024 ≤ maxRoom || (regex.shape.fits false && regex.shape.fits true)

end DialogueScript.Pattern
