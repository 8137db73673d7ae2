import DialogueScript.Chat.Window
import Mathlib.Data.List.Forall2

/-!
# What the window shows of a chat

However long the history of a chat is, its end is on the screen (`end_shown`): the box of the
history has one row of the screen for each of the last rows of the history.

How a line is cut into rows is said without cutting it (`CutInto`), and there is only one way to do
it (`cutInto_iff`). What stands on a screen is said cell by cell (`cell?`), because a box pads and
cuts what it holds; each character takes one cell.
-/

namespace DialogueScript.Chat.Window

/-! ## Lines in rows -/

/-- The rows that a line is cut into: together they are the line, all but the last of them are full,
and a row is empty only if the line is. -/
structure CutInto (width : Nat) (line : Text) (rows : List Text) : Prop where
  whole : rows.flatten = line
  full : ∀ row ∈ rows.dropLast, row.length = width
  last : ∃ row, rows.getLast? = some row ∧ row.length ≤ width ∧ (row = [] → line = [])

section Cut

variable {width : Nat} {line : Text}

/-- A line that fits is a row of its own. -/
theorem wrap_of_le (hwidth : 0 < width) (h : line.length ≤ width) : wrap width line = [line] := by
  rw [wrap, if_neg (Nat.ne_of_gt hwidth), if_pos h]

/-- A longer line fills a row and goes on in the next one. -/
theorem wrap_of_lt (hwidth : 0 < width) (h : width < line.length) :
    wrap width line = line.take width :: wrap width (line.drop width) := by
  rw [wrap, if_neg (Nat.ne_of_gt hwidth), if_neg (Nat.not_le.mpr h)]

theorem cutInto_singleton (h : line.length ≤ width) : CutInto width line [line] where
  whole := by simp
  full := by simp
  last := ⟨line, rfl, h, id⟩

/-- A full row may stand in front of the cuts of the rest. -/
theorem CutInto.cons {row : Text} {rows : List Text} (h : CutInto width line rows)
    (hrow : row.length = width) (hline : line ≠ []) :
    CutInto width (row ++ line) (row :: rows) := by
  obtain ⟨last, hlast, hle, hempty⟩ := h.last
  obtain ⟨second, more, rfl⟩ := List.exists_cons_of_ne_nil (List.ne_nil_of_mem
    (List.mem_of_getLast? hlast))
  refine ⟨by rw [List.flatten_cons, h.whole], ?_, last, ?_, hle, ?_⟩
  · rw [List.dropLast_cons_cons]
    exact List.forall_mem_cons.mpr ⟨hrow, h.full⟩
  · rwa [List.getLast?_cons_cons]
  · exact fun hnil => absurd (hempty hnil) hline

/-- Wrapping cuts a line into rows. -/
theorem cutInto_wrap (hwidth : 0 < width) (line : Text) :
    CutInto width line (wrap width line) := by
  fun_induction wrap width line with
  | case1 => omega
  | case2 line _ hle => exact cutInto_singleton hle
  | case3 line _ hlong ih =>
    have hrest : line.drop width ≠ [] := by simpa using hlong
    have hcons := ih.cons (List.length_take_of_le (Nat.le_of_not_le hlong)) hrest
    rwa [List.take_append_drop] at hcons

/-- What is behind the first row of a line is cut into the other rows. -/
theorem CutInto.tail {row second : Text} {more : List Text} (hwidth : 0 < width)
    (h : CutInto width line (row :: second :: more)) :
    row.length = width ∧ line = row ++ (second :: more).flatten ∧
      (second :: more).flatten ≠ [] ∧
      CutInto width (second :: more).flatten (second :: more) := by
  obtain ⟨hrow, hfull⟩ := List.forall_mem_cons.mp h.full
  obtain ⟨last, hlast, hle, hempty⟩ := h.last
  rw [List.getLast?_cons_cons] at hlast
  have hline : line = row ++ (second :: more).flatten := h.whole.symm
  -- the first row is full, so the line is not empty, and neither is its last row
  have hnonempty : last ≠ [] := by
    intro hnil
    have hlength := congrArg List.length (hempty hnil)
    rw [hline, List.length_append, hrow, List.length_nil] at hlength
    omega
  refine ⟨hrow, hline, ?_, rfl, hfull, last, hlast, hle, fun hnil => absurd hnil hnonempty⟩
  intro hnil
  exact hnonempty (List.flatten_eq_nil_iff.mp hnil last (List.mem_of_getLast? hlast))

/-- There is no other way to cut a line into rows. -/
theorem CutInto.eq_wrap {rows : List Text} (hwidth : 0 < width) (h : CutInto width line rows) :
    rows = wrap width line := by
  induction rows generalizing line with
  | nil =>
    obtain ⟨last, hlast, -⟩ := h.last
    cases hlast
  | cons row rest ih =>
    cases rest with
    | nil =>
      obtain ⟨last, hlast, hle, -⟩ := h.last
      obtain rfl : row = last := Option.some.inj hlast
      obtain rfl : row = line := by simpa using h.whole
      exact (wrap_of_le hwidth hle).symm
    | cons second more =>
      obtain ⟨hrow, hline, hnonempty, htail⟩ := h.tail hwidth
      have hlong : width < line.length := by
        have hpositive := List.length_pos_iff.mpr hnonempty
        rw [hline, List.length_append]
        omega
      rw [wrap_of_lt hwidth hlong, hline, List.take_left' hrow, List.drop_left' hrow, ← ih htail]

/-- A line is cut into rows in one way. -/
theorem cutInto_iff {rows : List Text} (hwidth : 0 < width) :
    CutInto width line rows ↔ rows = wrap width line :=
  ⟨CutInto.eq_wrap hwidth, fun h => h ▸ cutInto_wrap hwidth line⟩

/-- And lines are cut into rows in one way, each apart from the others. -/
theorem forall₂_cutInto_iff {lines : List Text} {cuts : List (List Text)} (hwidth : 0 < width) :
    List.Forall₂ (CutInto width) lines cuts ↔ cuts = lines.map (wrap width) := by
  have hcut : CutInto width = fun line rows => wrap width line = rows :=
    funext fun line => funext fun rows => propext ((cutInto_iff hwidth).trans eq_comm)
  rw [hcut, ← List.forall₂_map_left_iff, List.forall₂_eq_eq_eq, eq_comm]

end Cut

/-- The rows of the history are those of its lines, one after the other. -/
theorem historyRows_eq (width : Nat) (history : List ChatLine) :
    historyRows width history = ((history.map shownLine).map (wrap width)).flatten := by
  rw [historyRows, List.flatMap_def, List.map_map]
  rfl

/-! ## The last items -/

section Last

variable {α : Type} (n : Nat) (items : List α)

theorem append_lastItems : items.take (items.length - n) ++ lastItems n items = items :=
  List.take_append_drop ..

theorem length_lastItems : (lastItems n items).length = min n items.length := by
  rw [lastItems, List.length_drop]
  omega

end Last

/-! ## Cells of a screen -/

/-- The character in a cell of a screen. -/
def cell? (screen : List Text) (row column : Nat) : Option Char := screen[row]?.bind (·[column]?)

/-- A box stands on a screen from a row on, with so many columns and rows inside, and shows rows in
it. Behind the end of a row its cells are blank, and so are all cells of the rows that are left. -/
structure BoxShows (screen : List Text) (top width height : Nat) (rows : List Text) : Prop where
  above : cell? screen top 0 = some '┌' ∧ cell? screen top (width + 1) = some '┐'
  beside : ∀ i < height, cell? screen (top + (i + 1)) 0 = some '│' ∧
    cell? screen (top + (i + 1)) (width + 1) = some '│'
  below : cell? screen (top + (height + 1)) 0 = some '└' ∧
    cell? screen (top + (height + 1)) (width + 1) = some '┘'
  inside : ∀ i < height, ∀ j < width,
    cell? screen (top + (i + 1)) (j + 1) = some ((rows[i]?.getD [])[j]?.getD ' ')

section Box

variable {width height : Nat}

/-- Within the width, a padded text shows its own characters and fill behind them. -/
theorem getElem?_padded {fill : Char} {t : Text} {j : Nat} (h : j < width) :
    (padded fill width t)[j]? = some (t[j]?.getD fill) := by
  have hlength := List.length_take (i := width) (l := t)
  rcases Nat.lt_or_ge j t.length with hj | hj
  · rw [padded, List.getElem?_append_left (by omega), List.getElem?_take_of_lt h,
      List.getElem?_eq_getElem hj]
    rfl
  · rw [padded, List.getElem?_append_right (by omega), List.getElem?_replicate, if_pos (by omega),
      List.getElem?_eq_none hj]
    rfl

/-- A row between two borders. -/
theorem getElem?_bordered {left right : Char} {t : Text} (h : t.length = width) :
    (left :: t ++ [right])[0]? = some left ∧ (left :: t ++ [right])[width + 1]? = some right ∧
      ∀ j < width, (left :: t ++ [right])[j + 1]? = t[j]? := by
  refine ⟨rfl, ?_, fun j hj => ?_⟩
  · rw [List.cons_append, List.getElem?_cons_succ, ← h, List.getElem?_concat_length]
  · rw [List.cons_append, List.getElem?_cons_succ, List.getElem?_append_left (by omega)]

/-- Each row inside the box stands between two bars. -/
theorem getElem?_framed {title : Text} {rows : List Text} {i : Nat} (h : i < height) :
    (framed width height title rows)[i + 1]?
      = some ('│' :: padded ' ' width (rows[i]?.getD []) ++ ['│']) := by
  have hinside : ((rows ++ List.replicate (height - rows.length) []).take height)[i]?
      = some (rows[i]?.getD []) := by
    rw [List.getElem?_take_of_lt h]
    rcases Nat.lt_or_ge i rows.length with hi | hi
    · rw [List.getElem?_append_left hi, List.getElem?_eq_getElem hi]
      rfl
    · rw [List.getElem?_append_right hi, List.getElem?_replicate, if_pos (by omega),
        List.getElem?_eq_none hi]
      rfl
  rw [framed, List.cons_append, List.getElem?_cons_succ]
  rw [List.getElem?_append_left, List.getElem?_map, hinside]
  · rfl
  · rw [List.length_map]
    exact (List.getElem?_eq_some_iff.mp hinside).1

/-- A box has as many rows inside as it is high. -/
theorem length_inside (height : Nat) (rows : List Text) :
    ((rows ++ List.replicate (height - rows.length) []).take height).length = height := by
  rw [List.length_take, List.length_append, List.length_replicate]
  omega

theorem length_rows_framed (title : Text) (rows : List Text) :
    (framed width height title rows).length = height + 2 := by
  rw [framed, List.length_append, List.length_cons, List.length_map, length_inside]
  rfl

theorem getElem?_framed_last {title : Text} {rows : List Text} :
    (framed width height title rows)[height + 1]?
      = some ('└' :: List.replicate width '─' ++ ['┘']) := by
  have hlast := List.getLast?_eq_getElem? (l := framed width height title rows)
  rw [length_rows_framed] at hlast
  exact hlast.symm.trans List.getLast?_concat

/-- A box shows its rows wherever it stands. -/
theorem boxShows_framed (title : Text) (rows before behind : List Text) :
    BoxShows (before ++ framed width height title rows ++ behind) before.length width height
      rows := by
  -- what stands above and below the box does not matter
  have hcell : ∀ i < height + 2, ∀ j,
      cell? (before ++ framed width height title rows ++ behind) (before.length + i) j
        = (framed width height title rows)[i]?.bind (·[j]?) := by
    intro i hi j
    rw [cell?, List.append_assoc, List.getElem?_append_right (Nat.le_add_right ..),
      Nat.add_sub_cancel_left, List.getElem?_append_left (by rwa [length_rows_framed])]
  have htop : (framed width height title rows)[0]?
      = some ('┌' :: padded '─' width title ++ ['┐']) := rfl
  have hupper := @getElem?_bordered width '┌' '┐' _ (length_padded '─' width title)
  have hrow (i : Nat) := @getElem?_bordered width '│' '│' _
    (length_padded ' ' width (rows[i]?.getD []))
  have hlower := @getElem?_bordered width '└' '┘' _ (List.length_replicate (n := width) (a := '─'))
  constructor
  · have hzero := hcell 0 (by omega)
    rw [Nat.add_zero] at hzero
    rw [hzero, hzero, htop]
    exact ⟨hupper.1, hupper.2.1⟩
  · intro i hi
    rw [hcell (i + 1) (by omega), hcell (i + 1) (by omega), getElem?_framed hi]
    exact ⟨(hrow i).1, (hrow i).2.1⟩
  · rw [hcell (height + 1) (by omega), hcell (height + 1) (by omega), getElem?_framed_last]
    exact ⟨hlower.1, hlower.2.1⟩
  · intro i hi j hj
    rw [hcell (i + 1) (by omega), getElem?_framed hi]
    exact ((hrow i).2.2 j hj).trans (getElem?_padded hj)

end Box

/-! ## The end of the history -/

/-- A title that is too long ends with an ellipsis. -/
theorem truncate_of_pos {width : Nat} (h : 0 < width) (t : Text) :
    truncate width t = if t.length ≤ width then t else t.take (width - 1) ++ ['…'] := by
  rw [truncate, if_neg (Nat.ne_of_gt h)]

/-- On a screen that is large enough, nothing but the borders is taken from what is shown. -/
theorem draw_eq {width height : Nat} (hwidth : 10 ≤ width) (hheight : 7 ≤ height) (title : Text)
    (chat : Chat) :
    draw width height title chat
      = framed (width - 2) (height - 6) (truncate (width - 2) title)
          (lastItems (height - 6) (historyRows (width - 2) chat.history))
        ++ framed (width - 2) 1 (inputTitle chat) [truncate (width - 2) (chat.buffer ++ ['_'])]
        ++ [padded ' ' width (truncate width (statusText chat))] := by
  have hcolumns : max leastColumns (width - 2) = width - 2 := Nat.max_eq_right (by
    rw [leastColumns]
    omega)
  have hrows : max leastRows (height - 6) = height - 6 := Nat.max_eq_right (by
    rw [leastRows]
    omega)
  rw [draw, hcolumns, hrows]

/-- The drawn screen has as many rows as it should, and they are as wide as it is. -/
theorem size_draw {width height : Nat} (hwidth : 10 ≤ width) (hheight : 7 ≤ height) (title : Text)
    (chat : Chat) :
    (draw width height title chat).length = height ∧
      ∀ row ∈ draw width height title chat, row.length = width := by
  rw [draw_eq hwidth hheight]
  constructor
  · rw [List.length_append, List.length_append, length_rows_framed, length_rows_framed,
      List.length_singleton]
    omega
  · intro row hrow
    rcases List.mem_append.mp hrow with hbox | hstatus
    · rcases List.mem_append.mp hbox with hrow | hrow
      · rw [length_framed hrow]
        omega
      · rw [length_framed hrow]
        omega
    · rw [List.mem_singleton.mp hstatus, length_padded]

/-- **The window shows the end of the conversation**: each line of the history is cut into rows of
the width of the box, none of its characters being lost or shown twice, and the last of all these
rows stand in the box, from its top. Below, what is typed stands in a box of one row, and is cut only
if it does not fit. -/
theorem end_shown {width height : Nat} (hwidth : 10 ≤ width) (hheight : 7 ≤ height) (title : Text)
    (chat : Chat) :
    ∃ (cuts : List (List Text)) (hidden shown : List Text),
      (∀ others, List.Forall₂ (CutInto (width - 2)) (chat.history.map shownLine) others ↔
        others = cuts) ∧
      cuts.flatten.flatten = (chat.history.map shownLine).flatten ∧
      cuts.flatten = hidden ++ shown ∧ shown.length = min (height - 6) cuts.flatten.length ∧
      (draw width height title chat).length = height ∧
      (∀ row ∈ draw width height title chat, row.length = width) ∧
      BoxShows (draw width height title chat) 0 (width - 2) (height - 6) shown ∧
      BoxShows (draw width height title chat) (height - 4) (width - 2) 1
        [if (chat.buffer ++ ['_']).length ≤ width - 2 then chat.buffer ++ ['_']
          else (chat.buffer ++ ['_']).take (width - 3) ++ ['…']] := by
  have hinside : 0 < width - 2 := by omega
  have hcuts := historyRows_eq (width - 2) chat.history
  have hwhole : ((chat.history.map shownLine).map (wrap (width - 2))).flatten.flatten
      = (chat.history.map shownLine).flatten := by
    -- wrapping loses no character of any line
    have heach : List.flatten ∘ wrap (width - 2) = id :=
      funext (flatten_wrap (Nat.ne_of_gt hinside))
    rw [List.flatten_flatten, List.map_map, heach, List.map_id]
  refine ⟨(chat.history.map shownLine).map (wrap (width - 2)), _, _, fun others =>
    forall₂_cutInto_iff hinside, hwhole, (append_lastItems (height - 6) _).symm,
    length_lastItems .., (size_draw hwidth hheight title chat).1,
    (size_draw hwidth hheight title chat).2, ?_, ?_⟩
  · rw [draw_eq hwidth hheight, List.append_assoc, hcuts]
    exact boxShows_framed (truncate (width - 2) title) _ [] _
  · have hbox := @boxShows_framed (width - 2) 1 (inputTitle chat)
      [truncate (width - 2) (chat.buffer ++ ['_'])]
      (framed (width - 2) (height - 6) (truncate (width - 2) title)
        (lastItems (height - 6) (historyRows (width - 2) chat.history)))
      [padded ' ' width (truncate width (statusText chat))]
    -- the box of the input begins behind the rows of the other box
    rw [length_rows_framed, show height - 6 + 2 = height - 4 by omega] at hbox
    rw [draw_eq hwidth hheight, show width - 3 = width - 2 - 1 by omega,
      ← truncate_of_pos hinside (chat.buffer ++ ['_'])]
    exact hbox

/-- The first row of a long line has gone from the top of a small window, and the end of what is
typed is cut. -/
theorem end_shown_small :
    let chat : Chat :=
      { session := ⟨Script.seeded, Engine.initial⟩
        history := [⟨.system, "Hello there".toList⟩, ⟨.user, "hi".toList⟩]
        buffer := "how are you".toList
        status := readyStatus
        waitingCall := none
        ended := false
        helpVisible := false }
    let screen := draw 10 8 "talk".toList chat
    10 ≤ 10 ∧ 7 ≤ 8 ∧
      CutInto 8 "Hello there".toList ["Hello th".toList, "ere".toList] ∧
      BoxShows screen 0 8 2 ["ere".toList, "> hi".toList] ∧
      BoxShows screen 4 8 1 ["how are…".toList] := by
  intro chat screen
  have hlong : CutInto 8 "Hello there".toList ["Hello th".toList, "ere".toList] :=
    ⟨by decide, by decide, "ere".toList, by decide, by decide, by decide⟩
  have hshort : CutInto 8 "> hi".toList ["> hi".toList] := cutInto_singleton (by decide)
  obtain ⟨cuts, hidden, shown, hcuts, -, hparts, hlength, -, -, hhistory, htyped⟩ :=
    end_shown (Nat.le_refl 10) (Nat.le_succ 7) "talk".toList chat
  obtain rfl := (hcuts _).mp (.cons hlong (.cons hshort .nil))
  -- three rows, of which the last two are shown
  have hhidden : hidden.length = 1 := by
    have htotal := congrArg List.length hparts
    rw [List.length_append, hlength] at htotal
    exact Nat.add_right_cancel htotal.symm
  have hshown : shown = ["ere".toList, "> hi".toList] := by
    have hdrop := congrArg (List.drop hidden.length) hparts
    rw [List.drop_left, hhidden] at hdrop
    exact hdrop.symm
  rw [hshown] at hhistory
  exact ⟨Nat.le_refl 10, Nat.le_succ 7, hlong, hhistory, htyped⟩

end DialogueScript.Chat.Window
