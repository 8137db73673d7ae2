import DialogueScript.Chat.Basic

/-!
# The chat window

Draws a chat on a screen of character cells: a box with the end of the history, a box with what is
being typed, and a row with the status.

Main statements: `flatten_wrap` (wrapping loses and adds no character), `length_le_of_mem_wrap`
(the rows fit) and `length_framed` (a box is as wide as it should be).
-/

namespace DialogueScript.Chat.Window

/-- Cuts a line into rows; only the last may be shorter. An empty line has one empty row. -/
def wrap (width : Nat) (line : Text) : List Text :=
  if width = 0 then [[]]
  else if line.length ≤ width then [line]
  else line.take width :: wrap width (line.drop width)
termination_by line.length
decreasing_by
  simp only [List.length_drop]
  omega

theorem flatten_wrap {width : Nat} (h : width ≠ 0) (line : Text) :
    (wrap width line).flatten = line := by
  fun_induction wrap width line with
  | case1 => contradiction
  | case2 => simp
  | case3 line _ _ ih => simp [ih]

theorem length_le_of_mem_wrap {width : Nat} {line row : Text} (h : row ∈ wrap width line) :
    row.length ≤ width := by
  fun_induction wrap width line with
  | case1 => simp_all
  | case2 line _ hle => simp_all
  | case3 line _ _ ih =>
    rcases List.mem_cons.mp h with rfl | h
    · simp only [List.length_take]
      omega
    · exact ih h

/-- Cuts a text that is too long, with a sign that something is missing. -/
def truncate (width : Nat) (t : Text) : Text :=
  if t.length ≤ width then t
  else if width = 0 then []
  else t.take (width - 1) ++ ['…']

/-- A text on a row of exactly this width. -/
def padded (fill : Char) (width : Nat) (t : Text) : Text :=
  let shown := t.take width
  shown ++ List.replicate (width - shown.length) fill

@[simp] theorem length_padded (fill : Char) (width : Nat) (t : Text) :
    (padded fill width t).length = width := by
  simp only [padded, List.length_append, List.length_take, List.length_replicate]
  omega

/-- A box with a title and rows, which are padded or cut to its size inside. -/
def framed (width height : Nat) (title : Text) (rows : List Text) : List Text :=
  let inside := (rows ++ List.replicate (height - rows.length) []).take height
  ('┌' :: padded '─' width title ++ ['┐']) ::
    inside.map (fun row => '│' :: padded ' ' width row ++ ['│']) ++
    ['└' :: List.replicate width '─' ++ ['┘']]

theorem length_framed {width height : Nat} {title : Text} {rows : List Text} {row : Text}
    (h : row ∈ framed width height title rows) : row.length = width + 2 := by
  simp only [framed, List.cons_append, List.mem_cons, List.mem_append, List.mem_map,
    List.not_mem_nil, or_false] at h
  rcases h with rfl | ⟨_, _, rfl⟩ | rfl <;> simp

/-- The line of the history as it is shown. -/
def shownLine (line : ChatLine) : Text :=
  match line.speaker with
  | .system => line.text
  | .user => "> ".toList ++ line.text

/-- The history in rows. -/
def historyRows (width : Nat) (history : List ChatLine) : List Text :=
  history.flatMap fun line => wrap width (shownLine line)

/-- The last `n` items. -/
def lastItems {α : Type} (n : Nat) (items : List α) : List α := items.drop (items.length - n)

/-- The title of the box for typing. -/
def inputTitle (chat : Chat) : Text :=
  match chat.waitingCall with
  | some name => "result for ".toList ++ name
  | none => "response".toList

/-- The text of the last row. -/
def statusText (chat : Chat) : Text :=
  if chat.helpVisible then
    Command.summary ++ " | enter submit | ctrl-r restart | esc quit".toList
  else "status: ".toList ++ chat.status

/-- The rows that the history has at least, however small the screen is. -/
def leastRows : Nat := 1

/-- The columns that a text is cut to at least, however small the screen is. -/
def leastColumns : Nat := 8

/-- Draws a chat: the box of the history takes the rows that the box for typing and the status
leave. -/
def draw (width height : Nat) (title : Text) (chat : Chat) : List Text :=
  let inside := width - 2
  let columns := max leastColumns inside
  let rows := max leastRows (height - 6)
  let history := lastItems rows (historyRows columns chat.history)
  let box := framed inside rows (truncate columns title) history
  let input := framed inside 1 (inputTitle chat) [truncate columns (chat.buffer ++ ['_'])]
  box ++ input ++ [padded ' ' width (truncate width (statusText chat))]

end DialogueScript.Chat.Window
