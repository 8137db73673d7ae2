import DialogueScript.Text.Escape
import DialogueScript.Proofs.Text.Slice

/-!
# What escapes mean

A text with escapes is made up of pieces, and its decoding of what they mean, one after the other
(`decode_pieces`). Whatever the text is, decoding makes it no longer (`bytes_decode_le`), and it can
be done on slices between offsets in bytes, none of which is inside a character
(`decodeSliced?_eq`).
-/

namespace DialogueScript.Text.Escape

open Alphabet

/-! ## Pieces -/

/-- The letters and signs of simple escapes with the characters they mean. -/
def simpleEscapes : List (Char × Char) :=
  [('n', '\n'), ('t', '\t'), ('r', '\r'), ('\\', '\\'), ('\'', '\''), ('"', '"')]

/-- The letters of numeric escapes with the counts of their digits. -/
def numericEscapes : List (Char × Nat) := [('x', 2), ('u', 4), ('U', 8)]

/-- A numeric escape that has all its digits. -/
structure Numeral where
  letter : Char
  digits : Text
  width : (letter, digits.length) ∈ numericEscapes
  hex : ∀ c ∈ digits, isHexDigit c = true

/-- A numeric escape as it is written. -/
def Numeral.text (numeral : Numeral) : Text := '\\' :: numeral.letter :: numeral.digits

/-- A part of a text with escapes. -/
inductive Piece
  /-- A character that is no backslash. -/
  | plain (c : Char) (ne : c ≠ '\\')
  /-- A backslash with a letter or sign that means a character. -/
  | simple (letter c : Char) (mem : (letter, c) ∈ simpleEscapes)
  /-- The number of a character. -/
  | numeric (numeral : Numeral) (c : Char) (value : hexNumber numeral.digits = c.toNat)
  /-- A number that no character has. -/
  | invalid (numeral : Numeral) (value : ¬ (hexNumber numeral.digits).isValidChar)
  /-- A backslash in front of a character that begins no escape. -/
  | unknown (letter : Char) (simple : ∀ c, (letter, c) ∉ simpleEscapes)
    (numeric : ∀ width, (letter, width) ∉ numericEscapes)

namespace Piece

/-- A piece as it is written. -/
def text : Piece → Text
  | plain c _ => [c]
  | simple letter _ _ => ['\\', letter]
  | numeric numeral _ _ => numeral.text
  | invalid numeral _ => numeral.text
  | unknown letter _ _ => ['\\', letter]

/-- What a piece means: one character, or the piece itself. -/
def meaning : Piece → Text
  | plain c _ | simple _ c _ | numeric _ c _ => [c]
  | invalid numeral _ => numeral.text
  | unknown letter _ _ => ['\\', letter]

end Piece

/-- The letters that mean a character are those of the table. -/
theorem simple?_eq_some_iff {letter c : Char} :
    simple? letter = some c ↔ (letter, c) ∈ simpleEscapes := by
  unfold simple? simpleEscapes
  split <;> simp_all [eq_comm]

/-- The letters that announce a number are those of the other table, each with its count of digits.
-/
theorem hexWidth?_eq_some_iff {letter : Char} {width : Nat} :
    hexWidth? letter = some width ↔ (letter, width) ∈ numericEscapes := by
  unfold hexWidth? numericEscapes
  split <;> simp_all [eq_comm]

/-! ## The beginning of a text -/

section Decode

variable {c letter : Char} {width : Nat} {tail : Text}

@[simp] theorem decode_nil : decode [] = [] := by
  rw [decode.eq_def]

/-- A backslash at the end stands for itself. -/
theorem decode_backslash : decode ['\\'] = ['\\'] := by
  rw [decode.eq_def]
  rfl

/-- What is no backslash stands for itself. -/
theorem decode_of_ne (h : c ≠ '\\') (rest : Text) : decode (c :: rest) = c :: decode rest := by
  rw [decode.eq_def]
  exact if_neg h

/-- A backslash with a letter of the table stands for the character that the letter means. -/
theorem decode_of_simple (h : simple? letter = some c) (tail : Text) :
    decode ('\\' :: letter :: tail) = c :: decode tail := by
  rw [decode.eq_def]
  simp [h]

/-- A backslash with a letter that means nothing stays, and so does the letter. -/
theorem decode_of_neither (hsimple : simple? letter = none) (hwidth : hexWidth? letter = none)
    (tail : Text) : decode ('\\' :: letter :: tail) = '\\' :: letter :: decode tail := by
  rw [decode.eq_def]
  simp [hsimple, hwidth]

/-- The number of a character has as many digits as its letter announces. -/
theorem decode_of_complete (hsimple : simple? letter = none)
    (hwidth : hexWidth? letter = some width)
    (hcomplete : (tail.take width).length = width ∧ (tail.take width).all isHexDigit = true) :
    decode ('\\' :: letter :: tail)
      = hexMeaning letter (tail.take width) ++ decode (tail.drop width) := by
  rw [decode.eq_def]
  simp only [hsimple, hwidth]
  exact if_pos hcomplete

/-- If a digit is missing, what is there stays as it is. -/
theorem decode_of_cutOff (hsimple : simple? letter = none) (hwidth : hexWidth? letter = some width)
    (hcutOff : ¬ ((tail.take width).length = width ∧ (tail.take width).all isHexDigit = true)) :
    decode ('\\' :: letter :: tail) = '\\' :: letter :: decode tail := by
  rw [decode.eq_def]
  simp only [hsimple, hwidth]
  exact if_neg hcutOff

/-- A front without backslashes is not touched. -/
theorem decode_append {front : Text} (h : '\\' ∉ front) (rest : Text) :
    decode (front ++ rest) = front ++ decode rest := by
  induction front with
  | nil => rfl
  | cons c front ih =>
    rw [List.mem_cons, not_or] at h
    rw [List.cons_append, decode_of_ne (Ne.symm h.1), ih h.2, List.cons_append]

end Decode

/-! ## Pieces in front of a text -/

section Pieces

variable {letter : Char} {width : Nat}

theorem simple?_eq_none (h : ∀ c, (letter, c) ∉ simpleEscapes) : simple? letter = none :=
  Option.eq_none_iff_forall_ne_some.mpr fun c hc => h c (simple?_eq_some_iff.mp hc)

theorem hexWidth?_eq_none (h : ∀ width, (letter, width) ∉ numericEscapes) :
    hexWidth? letter = none :=
  Option.eq_none_iff_forall_ne_some.mpr fun width hwidth =>
    h width (hexWidth?_eq_some_iff.mp hwidth)

/-- The letter of a numeric escape has no meaning of its own. -/
theorem simple?_of_numeric (h : (letter, width) ∈ numericEscapes) : simple? letter = none := by
  simp only [numericEscapes, List.mem_cons, Prod.mk.injEq, List.not_mem_nil, or_false] at h
  rcases h with ⟨rfl, -⟩ | ⟨rfl, -⟩ | ⟨rfl, -⟩ <;> rfl

/-- The number of a character gives it back. -/
theorem charOf?_toNat (c : Char) : charOf? c.toNat = some c := by
  have hvalid : c.toNat.isValidChar := c.valid
  rw [charOf?, dif_pos hvalid]
  rfl

/-- Behind all the digits of a numeric escape its number decides. -/
theorem decode_numeral (numeral : Numeral) (rest : Text) : decode (numeral.text ++ rest)
    = hexMeaning numeral.letter numeral.digits ++ decode rest := by
  obtain ⟨letter, digits, hwidth, hhex⟩ := numeral
  have htake : (digits ++ rest).take digits.length = digits := List.take_left
  have hdrop : (digits ++ rest).drop digits.length = rest := List.drop_left
  have hall : digits.all isHexDigit = true := List.all_eq_true.mpr hhex
  show decode ('\\' :: letter :: (digits ++ rest)) = _
  rw [decode_of_complete (simple?_of_numeric hwidth) (hexWidth?_eq_some_iff.mpr hwidth)
    (by rw [htake]; exact ⟨rfl, hall⟩), htake, hdrop]

/-- A piece is decoded to what it means, whatever comes behind it. -/
theorem decode_piece (piece : Piece) (rest : Text) :
    decode (piece.text ++ rest) = piece.meaning ++ decode rest := by
  cases piece with
  | plain c ne => exact decode_of_ne ne rest
  | simple letter c mem => exact decode_of_simple (simple?_eq_some_iff.mpr mem) rest
  | numeric numeral c value =>
    rw [Piece.text, decode_numeral, hexMeaning, value, charOf?_toNat]
    rfl
  | invalid numeral value =>
    rw [Piece.text, decode_numeral, hexMeaning, charOf?, dif_neg value]
    rfl
  | unknown letter simple numeric =>
    exact decode_of_neither (simple?_eq_none simple) (hexWidth?_eq_none numeric) rest

/-- A text that is written piece by piece is decoded piece by piece. -/
theorem decode_pieces (pieces : List Piece) :
    decode (pieces.flatMap Piece.text) = pieces.flatMap Piece.meaning := by
  induction pieces with
  | nil => exact decode_nil
  | cons piece pieces ih => rw [List.flatMap_cons, decode_piece, ih, List.flatMap_cons]

end Pieces

/-! ## The length in bytes -/

section Bytes

variable {digits : Text}

/-- Each character takes at least one byte. -/
theorem length_le_bytes (t : Text) : t.length ≤ bytes t := by
  induction t with
  | nil => exact Nat.le_refl 0
  | cons c rest ih =>
    have hsize : 0 < c.utf8Size := c.utf8Size_pos
    rw [List.length_cons, bytes_cons]
    omega

/-- A character takes no more bytes than the number that it is written as. -/
theorem bytes_hexMeaning_le (letter : Char) (hdigits : 2 ≤ digits.length) :
    bytes (hexMeaning letter digits) ≤ bytes ('\\' :: letter :: digits) := by
  unfold hexMeaning
  split
  next c _ =>
    have hsize : c.utf8Size ≤ 4 := c.utf8Size_le_four
    have hletter : 0 < letter.utf8Size := letter.utf8Size_pos
    have hlength := length_le_bytes digits
    rw [bytes_cons, bytes_nil, bytes_cons, bytes_cons, show '\\'.utf8Size = 1 by decide]
    omega
  next => exact Nat.le_refl _

theorem two_le_of_hexWidth? {letter : Char} {width : Nat} (h : hexWidth? letter = some width) :
    2 ≤ width := by
  have hmem := hexWidth?_eq_some_iff.mp h
  simp only [numericEscapes, List.mem_cons, Prod.mk.injEq, List.not_mem_nil, or_false] at hmem
  omega

/-- The letters of the table take one byte each, and so does what they mean. -/
theorem utf8Size_of_mem_simpleEscapes {letter c : Char} (h : (letter, c) ∈ simpleEscapes) :
    letter.utf8Size = 1 ∧ c.utf8Size = 1 := by
  simp only [simpleEscapes, List.mem_cons, Prod.mk.injEq, List.not_mem_nil, or_false] at h
  rcases h with ⟨rfl, rfl⟩ | ⟨rfl, rfl⟩ | ⟨rfl, rfl⟩ | ⟨rfl, rfl⟩ | ⟨rfl, rfl⟩ | ⟨rfl, rfl⟩ <;>
    decide

/-- Decoding makes no text longer. -/
theorem bytes_decode_le (t : Text) : bytes (decode t) ≤ bytes t := by
  -- one case for each form of escape; only complete numbers need an argument
  induction t using decode.induct with
  | case1 => exact Nat.le_of_eq (congrArg bytes decode_nil)
  | case2 => exact Nat.le_of_eq (congrArg bytes decode_backslash)
  | case3 letter tail c hsimple ih =>
    obtain ⟨hletter, hc⟩ := utf8Size_of_mem_simpleEscapes (simple?_eq_some_iff.mp hsimple)
    rw [decode_of_simple hsimple, bytes_cons, bytes_cons, bytes_cons, hletter, hc]
    omega
  | case4 letter tail hsimple hwidth ih =>
    rw [decode_of_neither hsimple hwidth]
    simp only [bytes_cons]
    omega
  | case5 letter tail hsimple width hwidth hcomplete ih =>
    rw [decode_of_complete hsimple hwidth hcomplete, bytes_append]
    -- two digits are the least that an escape announces
    have htwo : 2 ≤ (tail.take width).length := by
      rw [hcomplete.1]
      exact two_le_of_hexWidth? hwidth
    calc bytes (hexMeaning letter (tail.take width)) + bytes (decode (tail.drop width))
        ≤ bytes ('\\' :: letter :: tail.take width) + bytes (tail.drop width) :=
          Nat.add_le_add (bytes_hexMeaning_le letter htwo) ih
      _ = bytes ('\\' :: letter :: tail) := by
          rw [← bytes_append, List.cons_append, List.cons_append, List.take_append_drop]
  | case6 letter tail hsimple width hwidth hcutOff ih =>
    rw [decode_of_cutOff hsimple hwidth hcutOff]
    simp only [bytes_cons]
    omega
  | case7 c rest hc ih =>
    rw [decode_of_ne hc]
    simp only [bytes_cons]
    omega

end Bytes

/-! ## Decoding by slices -/

/-- Reads the escape that a text begins with: the character it means, if it means one, and how many
bytes it has. -/
def readEscape? (escape : Text) : Option (Option Char × Nat) := do
  let (_, behind) ← cut? 1 escape
  match behind with
  | [] => return (none, 1)
  | letter :: _ =>
    match simple? letter with
    | some c => return (some c, 2)
    | none =>
      match hexWidth? letter with
      | none => return (none, 1 + letter.utf8Size)
      | some width =>
        let (_, hex) ← cut? 2 escape
        if ((hex.take width).filter isHexDigit).length < width then return (none, 2)
        let (digits, _) ← cut? width hex
        return (charOf? (hexNumber digits), 2 + width)

/-- Decodes a text up to its first escape and with it: what comes of that, and the rest. -/
def decodeFirst? (t : Text) : Option (Text × Text) := do
  let offset ← offsetOf? '\\' t
  let (front, escape) ← cut? offset t
  let (c?, size) ← readEscape? escape
  let (taken, behind) ← cut? size escape
  return (front ++ c?.elim taken (fun c => [c]), behind)

/-- Decodes a text between offsets in bytes. There is no result if one of them is inside a
character or behind the end, nor if an escape leaves as much to decode as there was. -/
def decodeSliced? (t : Text) : Option Text := do
  if t.contains '\\' then
    let (decoded, behind) ← decodeFirst? t
    if behind.length < t.length then
      let more ← decodeSliced? behind
      return decoded ++ more
    else none
  else return t
termination_by t.length

/-- A reading of the escape in front of a text: the cut behind it is not inside a character, and
what is read in front of the cut is what decoding finds there. -/
structure Reads (escape : Text) (c? : Option Char) (taken behind : Text) : Prop where
  read : readEscape? escape = some (c?, bytes taken)
  parts : escape = taken ++ behind
  taken_ne : taken ≠ []
  decoded : decode escape = c?.elim taken (fun c => [c]) ++ decode behind

section Reads

variable {letter c : Char} {width : Nat}

/-- The backslash is one byte, so the first cut falls on a character boundary. -/
theorem cut?_backslash (tail : Text) : cut? 1 ('\\' :: tail) = some (['\\'], tail) :=
  cut?_append ['\\'] tail

/-- The second cut falls on one as well, if the letter behind the backslash is one byte. -/
theorem cut?_letter (h : letter.utf8Size = 1) (tail : Text) :
    cut? 2 ('\\' :: letter :: tail) = some (['\\', letter], tail) :=
  cut?_eq_some_iff.mpr ⟨rfl, by rw [bytes_cons, bytes_cons, h]; rfl⟩

theorem bytes_letter (letter : Char) : bytes ['\\', letter] = 1 + letter.utf8Size := rfl

theorem utf8Size_of_mem_numericEscapes (h : (letter, width) ∈ numericEscapes) :
    letter.utf8Size = 1 := by
  simp only [numericEscapes, List.mem_cons, Prod.mk.injEq, List.not_mem_nil, or_false] at h
  rcases h with ⟨rfl, -⟩ | ⟨rfl, -⟩ | ⟨rfl, -⟩ <;> decide

/-- A hexadecimal digit is one byte. -/
theorem utf8Size_of_isHexDigit (h : isHexDigit c = true) : c.utf8Size = 1 := by
  have hle : c.val ≤ 0x7F := by
    simp only [isHexDigit, isAsciiDigit, Bool.or_eq_true, Bool.and_eq_true, decide_eq_true_eq,
      Char.le_def] at h
    rcases h with (⟨-, h⟩ | ⟨-, h⟩) | ⟨-, h⟩ <;> exact UInt32.le_trans h (by decide)
  exact if_pos hle

/-- Hexadecimal digits take as many bytes as there are of them. -/
theorem bytes_of_isHexDigit {digits : Text} (h : ∀ c ∈ digits, isHexDigit c = true) :
    bytes digits = digits.length := by
  induction digits with
  | nil => rfl
  | cons c digits ih =>
    rw [bytes_cons, List.length_cons, utf8Size_of_isHexDigit (h c List.mem_cons_self),
      ih fun d hd => h d (List.mem_cons_of_mem c hd), Nat.add_comm]

/-- At the end, the slices read the backslash alone. -/
theorem reads_backslash : Reads ['\\'] none ['\\'] [] where
  read := by
    rw [readEscape?, cut?_backslash]
    rfl
  parts := rfl
  taken_ne := List.cons_ne_nil _ _
  decoded := by
    rw [decode_backslash, decode_nil]
    rfl

/-- A letter of the table is read together with the backslash in front of it. -/
theorem reads_of_simple (h : simple? letter = some c) (tail : Text) :
    Reads ('\\' :: letter :: tail) (some c) ['\\', letter] tail where
  read := by
    have hletter := (utf8Size_of_mem_simpleEscapes (simple?_eq_some_iff.mp h)).1
    rw [readEscape?, cut?_backslash, bytes_letter, hletter]
    simp [h]
  parts := rfl
  taken_ne := List.cons_ne_nil _ _
  decoded := decode_of_simple h tail

/-- Without a letter that means something the slices keep the backslash. -/
theorem reads_of_neither (hsimple : simple? letter = none) (hwidth : hexWidth? letter = none)
    (tail : Text) : Reads ('\\' :: letter :: tail) none ['\\', letter] tail where
  read := by
    rw [readEscape?, cut?_backslash, bytes_letter]
    simp [hsimple, hwidth]
  parts := rfl
  taken_ne := List.cons_ne_nil _ _
  decoded := decode_of_neither hsimple hwidth tail

/-- All of the first characters are digits, or fewer of them than there should be. -/
theorem length_filter_lt_iff (p : Char → Bool) (tail : Text) (width : Nat) :
    ((tail.take width).filter p).length < width
      ↔ ¬ ((tail.take width).length = width ∧ (tail.take width).all p = true) := by
  have hle : ((tail.take width).filter p).length ≤ (tail.take width).length :=
    List.length_filter_le p _
  have htake : (tail.take width).length ≤ width := List.length_take_le _ _
  have hall : ((tail.take width).filter p).length = (tail.take width).length
      ↔ (tail.take width).all p = true := by
    rw [List.length_filter_eq_length_iff, List.all_eq_true]
  rw [← hall]
  omega

/-- A number whose digits are not all there is kept as it stands. -/
theorem reads_of_cutOff (hsimple : simple? letter = none) (hwidth : hexWidth? letter = some width)
    {tail : Text}
    (hcutOff : ¬ ((tail.take width).length = width ∧ (tail.take width).all isHexDigit = true)) :
    Reads ('\\' :: letter :: tail) none ['\\', letter] tail where
  read := by
    have hletter := utf8Size_of_mem_numericEscapes (hexWidth?_eq_some_iff.mp hwidth)
    have hfew := (length_filter_lt_iff isHexDigit tail width).mpr hcutOff
    rw [readEscape?, cut?_backslash, bytes_letter, hletter]
    simp [hsimple, hwidth, cut?_letter hletter, hfew]
  parts := rfl
  taken_ne := List.cons_ne_nil _ _
  decoded := decode_of_cutOff hsimple hwidth hcutOff

/-- A number means its character, or stands for itself if it has none. -/
theorem hexMeaning_eq (letter : Char) (digits : Text) : hexMeaning letter digits
    = (charOf? (hexNumber digits)).elim ('\\' :: letter :: digits) fun c => [c] := by
  unfold hexMeaning
  cases charOf? (hexNumber digits) <;> rfl

/-- A number with all its digits is read to its last one. -/
theorem reads_of_complete (hsimple : simple? letter = none) (hwidth : hexWidth? letter = some width)
    {tail : Text}
    (hcomplete : (tail.take width).length = width ∧ (tail.take width).all isHexDigit = true) :
    Reads ('\\' :: letter :: tail) (charOf? (hexNumber (tail.take width)))
      ('\\' :: letter :: tail.take width) (tail.drop width) where
  read := by
    have hletter := utf8Size_of_mem_numericEscapes (hexWidth?_eq_some_iff.mp hwidth)
    have hfew := mt (length_filter_lt_iff isHexDigit tail width).mp (not_not_intro hcomplete)
    have hbytes : bytes (tail.take width) = width := by
      rw [bytes_of_isHexDigit (List.all_eq_true.mp hcomplete.2), hcomplete.1]
    have hdigits : cut? width tail = some (tail.take width, tail.drop width) :=
      cut?_eq_some_iff.mpr ⟨(List.take_append_drop width tail).symm, hbytes⟩
    have hsize : bytes ('\\' :: letter :: tail.take width) = 2 + width := by
      rw [bytes_cons, bytes_cons, hletter, hbytes, show '\\'.utf8Size = 1 by decide]
      omega
    rw [readEscape?, cut?_backslash, hsize]
    simp [hsimple, hwidth, cut?_letter hletter, hfew, hdigits]
  parts := by
    rw [List.cons_append, List.cons_append, List.take_append_drop]
  taken_ne := List.cons_ne_nil _ _
  decoded := by
    rw [decode_of_complete hsimple hwidth hcomplete, hexMeaning_eq]

/-- Wherever a backslash stands, an escape is read. -/
theorem exists_reads (tail : Text) : ∃ c? taken behind, Reads ('\\' :: tail) c? taken behind := by
  cases tail with
  | nil => exact ⟨_, _, _, reads_backslash⟩
  | cons letter tail =>
    cases hsimple : simple? letter with
    | some c => exact ⟨_, _, _, reads_of_simple hsimple tail⟩
    | none =>
      cases hwidth : hexWidth? letter with
      | none => exact ⟨_, _, _, reads_of_neither hsimple hwidth tail⟩
      | some width =>
        by_cases h : (tail.take width).length = width ∧ (tail.take width).all isHexDigit = true
        · exact ⟨_, _, _, reads_of_complete hsimple hwidth h⟩
        · exact ⟨_, _, _, reads_of_cutOff hsimple hwidth h⟩

end Reads

/-- The first backslash is found behind what has none, and what is read there is put behind it. -/
theorem decodeFirst?_of_reads {front escape taken behind : Text} {c? : Option Char}
    (hfront : '\\' ∉ front) (hescape : escape.head? = some '\\')
    (hreads : Reads escape c? taken behind) : decodeFirst? (front ++ escape)
      = some (front ++ c?.elim taken (fun c => [c]), behind) := by
  obtain ⟨tail, rfl⟩ := List.head?_eq_some_iff.mp hescape
  have htaken : cut? (bytes taken) ('\\' :: tail) = some (taken, behind) :=
    cut?_eq_some_iff.mpr ⟨hreads.parts, rfl⟩
  rw [decodeFirst?, offsetOf?_append hfront]
  simp [cut?_append, hreads.read, htaken]

/-- Decoding by slices never cuts inside a character, and it decodes. -/
theorem decodeSliced?_eq (t : Text) : decodeSliced? t = some (decode t) := by
  -- what stands behind an escape is shorter than the text
  induction hn : t.length using Nat.strongRecOn generalizing t with
  | ind n ih =>
    rw [decodeSliced?]
    by_cases hmem : '\\' ∈ t
    · obtain ⟨front, tail, rfl, hfront⟩ := List.eq_append_cons_of_mem hmem
      obtain ⟨c?, taken, behind, hreads⟩ := exists_reads tail
      have hlength : ('\\' :: tail).length = taken.length + behind.length := by
        rw [hreads.parts, List.length_append]
      have htaken : 0 < taken.length := List.length_pos_iff.mpr hreads.taken_ne
      have hshorter : behind.length < (front ++ '\\' :: tail).length := by
        rw [List.length_append]
        omega
      have hmore := ih _ (hn ▸ hshorter) behind rfl
      rw [if_pos (List.contains_iff_mem.mpr hmem), decodeFirst?_of_reads hfront rfl hreads,
        decode_append hfront, hreads.decoded, ← List.append_assoc, Option.bind_eq_bind,
        Option.bind_some]
      dsimp only
      rw [if_pos hshorter, hmore]
      rfl
    · rw [if_neg (mt List.contains_iff_mem.mp hmem), decode_of_not_mem hmem]
      rfl

/-! ## What decoding does -/

/-- Written with any mix of single characters and escapes of them, a text is found again. -/
theorem decode_of_written {t : Text} {pieces : List Piece}
    (h : pieces.map Piece.meaning = t.map fun c => [c]) :
    decode (pieces.flatMap Piece.text) = t := by
  rw [decode_pieces, List.flatMap_def, h, ← List.flatMap_def]
  exact List.flatMap_singleton' t

/-- Escapes are decoded piece by piece: the pieces of a text become what they mean, so a text that
is written with characters and escapes is found again, and one without backslash is unchanged.
Every text is decoded by cuts between characters, and to no more bytes than it has. -/
theorem decode_exact :
    (∀ pieces : List Piece,
      decode (pieces.flatMap Piece.text) = pieces.flatMap Piece.meaning) ∧
    (∀ (t : Text) (pieces : List Piece), pieces.map Piece.meaning = (t.map fun c => [c]) →
      decode (pieces.flatMap Piece.text) = t) ∧
    (∀ t : Text, '\\' ∉ t → decode t = t) ∧
    (∀ t : Text, decodeSliced? t = some (decode t)) ∧
    ∀ t : Text, bytes (decode t) ≤ bytes t :=
  ⟨decode_pieces, fun _ _ h => decode_of_written h, fun _ h => decode_of_not_mem h,
    decodeSliced?_eq, bytes_decode_le⟩

/-- A capital letter by its number, an accented one by its number and as it is, and a line end. -/
theorem decode_exact_mixed :
    decode ['\\', 'x', '4', '1', '\\', 'u', '0', '0', 'E', '9', 'é', '\\', 'n']
      = ['A', 'é', 'é', '\n'] ∧ decode ['t', 'e', 'a'] = ['t', 'e', 'a'] :=
  ⟨decode_exact.2.1 ['A', 'é', 'é', '\n']
    [.numeric ⟨'x', ['4', '1'], by decide, List.all_eq_true.mp (by decide)⟩ 'A' (by decide),
      .numeric ⟨'u', ['0', '0', 'E', '9'], by decide, List.all_eq_true.mp (by decide)⟩ 'é'
        (by decide),
      .plain 'é' (by decide), .simple 'n' '\n' (by decide)] rfl,
    decode_exact.2.2.1 ['t', 'e', 'a'] (by decide)⟩

end DialogueScript.Text.Escape
