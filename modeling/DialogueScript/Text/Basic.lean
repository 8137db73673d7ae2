/-!
# Text

All text is a list of characters. This module holds what the rest of the library asks of it:
which characters are blank, trimming, splitting, lines and the length in bytes.

Main statements: `head?_trim` and `getLast?_trim` (what is trimmed begins and ends with no blank),
`splitOnce_eq_some_iff` (a text is split where the separator first stands), `intercalate_splitAll`
(a text is its fields with the separator put back) and `lines_flatMap` (lines that were put one
after the other are found again).
-/

namespace DialogueScript

/-- A text, character by character. -/
abbrev Text := List Char

namespace Text

/-- The characters with the Unicode property White_Space. -/
def isBlank (c : Char) : Bool :=
  (9 ≤ c.toNat && c.toNat ≤ 13) || c.toNat == 0x20 || c.toNat == 0x85 || c.toNat == 0xA0 ||
    c.toNat == 0x1680 || (0x2000 ≤ c.toNat && c.toNat ≤ 0x200A) || c.toNat == 0x2028 ||
    c.toNat == 0x2029 || c.toNat == 0x202F || c.toNat == 0x205F || c.toNat == 0x3000

/-- The code points of the blanks. -/
def blankCodes : List Nat :=
  [9, 10, 11, 12, 13, 0x20, 0x85, 0xA0, 0x1680, 0x2000, 0x2001, 0x2002, 0x2003, 0x2004, 0x2005,
    0x2006, 0x2007, 0x2008, 0x2009, 0x200A, 0x2028, 0x2029, 0x202F, 0x205F, 0x3000]

theorem toNat_mem_blankCodes {c : Char} (h : isBlank c = true) : c.toNat ∈ blankCodes := by
  simp only [isBlank, Bool.or_eq_true, Bool.and_eq_true, decide_eq_true_eq, beq_iff_eq] at h
  simp only [blankCodes, List.mem_cons, List.not_mem_nil, or_false]
  omega

/-- Drops the blanks at the start. -/
def trimStart (t : Text) : Text := t.dropWhile isBlank

/-- Drops the blanks at the end. -/
def trimEnd (t : Text) : Text := (t.reverse.dropWhile isBlank).reverse

/-- Drops the blanks at both ends. -/
def trim (t : Text) : Text := trimEnd (trimStart t)

@[simp] theorem trimStart_nil : trimStart [] = [] := rfl

@[simp] theorem trimEnd_nil : trimEnd [] = [] := rfl

@[simp] theorem trim_nil : trim [] = [] := rfl

theorem trimStart_append {s : Text} (h : s.all isBlank = true) (t : Text) :
    trimStart (s ++ t) = trimStart t :=
  List.dropWhile_append_of_pos (List.all_eq_true.mp h)

theorem trimStart_eq_self {t : Text} (h : t.head?.any isBlank = false) : trimStart t = t := by
  cases t with
  | nil => rfl
  | cons c rest =>
    have hc : isBlank c = false := h
    simp [trimStart, hc]

theorem trimEnd_append {s : Text} (h : s.all isBlank = true) (t : Text) :
    trimEnd (t ++ s) = trimEnd t := by
  have hreverse : s.reverse.all isBlank = true := by rwa [List.all_reverse]
  rw [trimEnd, List.reverse_append,
    List.dropWhile_append_of_pos (List.all_eq_true.mp hreverse), trimEnd]

theorem trimEnd_eq_self {t : Text} (h : t.getLast?.any isBlank = false) : trimEnd t = t := by
  rw [trimEnd, show t.reverse.dropWhile isBlank = t.reverse from
    trimStart_eq_self (by rwa [List.head?_reverse]), List.reverse_reverse]

theorem trim_eq_self {t : Text} (hhead : t.head?.any isBlank = false)
    (hlast : t.getLast?.any isBlank = false) : trim t = t := by
  rw [trim, trimStart_eq_self hhead, trimEnd_eq_self hlast]

theorem trim_append {s : Text} (h : s.all isBlank = true) (t : Text) :
    trim (s ++ t) = trim t := by
  rw [trim, trimStart_append h, trim]

theorem trim_append_right {s : Text} (h : s.all isBlank = true) (t : Text) :
    trim (t ++ s) = trim t := by
  induction t with
  | nil =>
    have hstart := trimStart_append h []
    rw [List.append_nil] at hstart
    rw [List.nil_append, trim, hstart, trim]
  | cons c rest ih =>
    by_cases hc : isBlank c = true
    · rw [List.cons_append, ← List.singleton_append, trim_append (by simpa using hc), ih,
        ← List.singleton_append, trim_append (by simpa using hc)]
    · have hhead : isBlank c = false := by simpa using hc
      rw [trim, trimStart_eq_self (by simp [hhead]), trimEnd_append h, trim,
        trimStart_eq_self (by simp [hhead])]

theorem trimStart_isSuffix (t : Text) : trimStart t <:+ t := List.dropWhile_suffix isBlank

theorem trimEnd_isPrefix (t : Text) : trimEnd t <+: t := by
  have hreverse := List.reverse_prefix.mpr (trimStart_isSuffix t.reverse)
  rwa [List.reverse_reverse] at hreverse

/-- Trimming takes nothing from the inside. -/
theorem trim_isInfix (t : Text) : trim t <:+: t :=
  (trimEnd_isPrefix _).isInfix.trans (trimStart_isSuffix t).isInfix

theorem isBlank_of_trimStart {t : Text} (h : trimStart t = []) : ∀ c ∈ t, isBlank c = true := by
  have hall : t.takeWhile isBlank = t := by
    have hparts := @List.takeWhile_append_dropWhile _ isBlank t
    rwa [show t.dropWhile isBlank = [] from h, List.append_nil] at hparts
  rw [← hall]
  exact List.all_eq_true.mp List.all_takeWhile

theorem head?_trimStart (t : Text) : (trimStart t).head?.any isBlank = false := by
  have hfirst := List.head?_dropWhile_not isBlank t
  rw [trimStart]
  cases hhead : (t.dropWhile isBlank).head? with
  | none => rfl
  | some c =>
    rw [hhead] at hfirst
    exact hfirst

theorem getLast?_trimEnd (t : Text) : (trimEnd t).getLast?.any isBlank = false := by
  rw [trimEnd, List.getLast?_reverse]
  exact head?_trimStart t.reverse

theorem head?_trim (t : Text) : (trim t).head?.any isBlank = false := by
  obtain ⟨rest, hrest⟩ := trimEnd_isPrefix (trimStart t)
  have hhead := head?_trimStart t
  rw [← hrest] at hhead
  rw [trim]
  cases htrim : trimEnd (trimStart t) with
  | nil => rfl
  | cons c more =>
    rw [htrim] at hhead
    exact hhead

theorem getLast?_trim (t : Text) : (trim t).getLast?.any isBlank = false :=
  getLast?_trimEnd _

/-- Is there nothing but blanks? -/
def isBlankLine (t : Text) : Bool := t.all isBlank

/-- Trimming leaves something of what is more than blanks. -/
theorem trim_ne_nil {t : Text} (h : isBlankLine t = false) : trim t ≠ [] := by
  intro htrim
  obtain ⟨c, hc, hinside⟩ := List.all_eq_false.mp h
  have hstart : trimStart t ≠ [] := fun hnil => hinside (isBlank_of_trimStart hnil c hc)
  -- the first character behind the blanks is none, so the end keeps it
  have hfirst := head?_trimStart t
  rw [List.head?_eq_some_head hstart, Option.any_some] at hfirst
  have hreverse : trimStart (trimStart t).reverse = [] := List.reverse_eq_nil_iff.mp htrim
  have hblank := isBlank_of_trimStart hreverse _ (List.mem_reverse.mpr (List.head_mem hstart))
  rw [hfirst] at hblank
  cases hblank

/-- The number of bytes in UTF-8. -/
def bytes (t : Text) : Nat := t.foldr (fun c n => c.utf8Size + n) 0

@[simp] theorem bytes_nil : bytes [] = 0 := rfl

@[simp] theorem bytes_cons (c : Char) (t : Text) : bytes (c :: t) = c.utf8Size + bytes t := rfl

@[simp] theorem bytes_append (s t : Text) : bytes (s ++ t) = bytes s + bytes t := by
  induction s with
  | nil => simp
  | cons c s ih => rw [List.cons_append, bytes_cons, bytes_cons, ih, Nat.add_assoc]

/-- The parts before and after the first occurrence of `separator`. -/
def splitOnce (separator : Text) : Text → Option (Text × Text)
  | [] => if separator.isEmpty then some ([], []) else none
  | c :: rest =>
    if separator.isPrefixOf (c :: rest) then some ([], (c :: rest).drop separator.length)
    else (splitOnce separator rest).map fun parts => (c :: parts.1, parts.2)

theorem splitOnce_eq_some {separator t before after : Text}
    (h : splitOnce separator t = some (before, after)) : t = before ++ separator ++ after := by
  induction t generalizing before after with
  | nil =>
    simp only [splitOnce] at h
    split at h <;> simp_all
  | cons c rest ih =>
    simp only [splitOnce] at h
    split at h
    · rename_i hp
      obtain ⟨tail, ht⟩ := List.isPrefixOf_iff_prefix.mp hp
      simp only [Option.some.injEq, Prod.mk.injEq] at h
      obtain ⟨rfl, rfl⟩ := h
      rw [← ht]
      simp
    · obtain ⟨parts, hs, hp⟩ := Option.map_eq_some_iff.mp h
      simp only [Prod.mk.injEq] at hp
      obtain ⟨rfl, rfl⟩ := hp
      simp [ih hs]

theorem splitOnce_append {separator before : Text} (hne : separator ≠ [])
    (h : ¬ separator <:+: before ++ separator.dropLast) (after : Text) :
    splitOnce separator (before ++ separator ++ after) = some (before, after) := by
  induction before with
  | nil =>
    cases separator with
    | nil => exact absurd rfl hne
    | cons c rest =>
      rw [List.nil_append, List.cons_append, splitOnce, ← List.cons_append,
        if_pos (List.isPrefixOf_iff_prefix.mpr (List.prefix_append _ _)), List.drop_left]
  | cons c before ih =>
    -- an earlier occurrence would end in front of the last character of the one that is there
    have hfirst : ¬ separator.isPrefixOf (c :: (before ++ separator ++ after)) = true := by
      rw [List.isPrefixOf_iff_prefix]
      intro hfirst
      have hfront : c :: before ++ separator.dropLast <+: c :: (before ++ separator ++ after) := by
        rw [List.append_assoc, ← List.cons_append, List.prefix_append_right_inj]
        exact (List.dropLast_prefix _).trans (List.prefix_append _ _)
      refine h (List.prefix_of_prefix_length_le hfirst hfront ?_).isInfix
      have := List.length_pos_iff.mpr hne
      simp
      omega
    rw [List.cons_append, List.cons_append, splitOnce, if_neg hfirst,
      ih fun hinside => h (hinside.trans (List.suffix_cons c _).isInfix)]
    rfl

theorem splitOnce_of_notMem {separator : Char} {before : Text} (h : separator ∉ before)
    (after : Text) :
    splitOnce [separator] (before ++ separator :: after) = some (before, after) := by
  have hbefore : ¬ [separator] <:+: before ++ [separator].dropLast := fun hinside =>
    h (by simpa using hinside.subset (List.mem_singleton_self separator))
  simpa using splitOnce_append (List.cons_ne_nil separator []) hbefore after

/-- A text starts with a word and the separator behind it exactly if it is split behind the word. -/
theorem append_prefix_iff {separator word t : Text} (hne : separator ≠ [])
    (h : ¬ separator <:+: word ++ separator.dropLast) :
    word ++ separator <+: t ↔ ∃ rest, splitOnce separator t = some (word, rest) := by
  constructor
  · rintro ⟨rest, rfl⟩
    exact ⟨rest, splitOnce_append hne h rest⟩
  · rintro ⟨rest, hsplit⟩
    exact ⟨rest, (splitOnce_eq_some hsplit).symm⟩

theorem splitOnce_eq_none {separator t : Text} (h : ¬ separator <:+: t) :
    splitOnce separator t = none := by
  cases hsplit : splitOnce separator t with
  | none => rfl
  | some parts => exact absurd ⟨parts.1, parts.2, (splitOnce_eq_some hsplit).symm⟩ h

theorem splitOnce_eq_none_iff {separator t : Text} (hne : separator ≠ []) :
    splitOnce separator t = none ↔ ¬ separator <:+: t := by
  refine ⟨fun h => ?_, splitOnce_eq_none⟩
  induction t with
  | nil => simpa using hne
  | cons c rest ih =>
    rw [splitOnce] at h
    split at h
    · cases h
    next hfirst =>
      rw [List.infix_cons_iff, not_or, ← List.isPrefixOf_iff_prefix]
      exact ⟨hfirst, ih (Option.map_eq_none_iff.mp h)⟩

/-- A text is split at the first of its separators. -/
theorem splitOnce_eq_some_iff {separator t before after : Text} (hne : separator ≠ []) :
    splitOnce separator t = some (before, after) ↔
      t = before ++ separator ++ after ∧ ¬ separator <:+: before ++ separator.dropLast := by
  refine ⟨fun h => ⟨splitOnce_eq_some h, ?_⟩, fun ⟨ht, h⟩ => ht ▸ splitOnce_append hne h after⟩
  induction t generalizing before after with
  | nil => simp [splitOnce, hne] at h
  | cons c rest ih =>
    rw [splitOnce] at h
    split at h
    · obtain ⟨rfl, -⟩ := Prod.mk.inj (Option.some.inj h)
      intro hinside
      have hle := hinside.length_le
      rw [List.nil_append, List.length_dropLast] at hle
      have := List.length_pos_iff.mpr hne
      omega
    next hfirst =>
      obtain ⟨⟨left, right⟩, hsplit, hparts⟩ := Option.map_eq_some_iff.mp h
      obtain ⟨rfl, rfl⟩ := Prod.mk.inj hparts
      intro hinside
      rcases List.infix_cons_iff.mp hinside with hearlier | hlater
      · -- in front of the first separator there is no room for another
        refine hfirst (List.isPrefixOf_iff_prefix.mpr (hearlier.trans ?_))
        rw [List.cons_prefix_cons, splitOnce_eq_some hsplit, List.append_assoc]
        exact ⟨rfl, (List.prefix_append_right_inj left).mpr
          ((List.dropLast_prefix _).trans (List.prefix_append _ _))⟩
      · exact ih hsplit hlater

/-- Two neighbours in a text of two parts stand in one of them, or at the seam. -/
theorem infix_append_pair {x y : Char} {s t : Text} (h : [x, y] <:+: s ++ t) :
    [x, y] <:+: s ∨ [x, y] <:+: t ∨ s.getLast? = some x ∧ t.head? = some y := by
  induction s with
  | nil => exact .inr (.inl h)
  | cons c s ih =>
    rcases List.infix_cons_iff.mp h with hfirst | hinside
    · obtain ⟨rfl, hnext⟩ := List.cons_prefix_cons.mp hfirst
      cases s with
      | nil =>
        cases t with
        | nil => simp at hnext
        | cons d t => exact .inr (.inr ⟨rfl, by rw [(List.cons_prefix_cons.mp hnext).1]; rfl⟩)
      | cons d s =>
        obtain ⟨rfl, -⟩ := List.cons_prefix_cons.mp hnext
        exact .inl ⟨[], s, rfl⟩
    · rcases ih hinside with hs | ht | ⟨hlast, hhead⟩
      · exact .inl (hs.trans (List.suffix_cons c s).isInfix)
      · exact .inr (.inl ht)
      · exact .inr (.inr ⟨by simp [List.getLast?_cons, hlast], hhead⟩)

/-- The fields of a text between the occurrences of `separator`; at least one. -/
def splitAll (separator : Char) : Text → List Text
  | [] => [[]]
  | c :: rest =>
    if c = separator then [] :: splitAll separator rest
    else match splitAll separator rest with
      | [] => [[c]]
      | field :: fields => (c :: field) :: fields

theorem splitAll_ne_nil (separator : Char) (t : Text) : splitAll separator t ≠ [] := by
  cases t with
  | nil => simp [splitAll]
  | cons c rest =>
    simp only [splitAll]
    split
    · simp
    · split <;> simp

theorem intercalate_splitAll (separator : Char) (t : Text) :
    [separator].intercalate (splitAll separator t) = t := by
  induction t with
  | nil => rfl
  | cons c rest ih =>
    simp only [splitAll]
    cases hs : splitAll separator rest with
    | nil => exact absurd hs (splitAll_ne_nil separator rest)
    | cons field fields =>
      rw [hs] at ih
      split
      · rename_i hc
        subst hc
        rw [← ih]
        simp [List.intercalate]
      · rw [← ih]
        cases fields <;> simp [List.intercalate]

theorem notMem_of_mem_splitAll {separator : Char} {t field : Text}
    (h : field ∈ splitAll separator t) : separator ∉ field := by
  induction t generalizing field with
  | nil => simp_all [splitAll]
  | cons c rest ih =>
    rw [splitAll] at h
    split at h
    · rcases List.mem_cons.mp h with rfl | hrest
      · exact List.not_mem_nil
      · exact ih hrest
    next hc =>
      cases hs : splitAll separator rest with
      | nil => exact absurd hs (splitAll_ne_nil separator rest)
      | cons first fields =>
        rw [hs] at h ih
        rcases List.mem_cons.mp h with rfl | hrest
        · rw [List.mem_cons, not_or]
          exact ⟨Ne.symm hc, ih (List.mem_cons_self ..)⟩
        · exact ih (List.mem_cons_of_mem _ hrest)

theorem splitAll_append {separator : Char} {field : Text} (h : separator ∉ field) (t : Text) :
    splitAll separator (field ++ separator :: t) = field :: splitAll separator t := by
  induction field with
  | nil => simp [splitAll]
  | cons c field ih =>
    rw [List.mem_cons, not_or] at h
    obtain ⟨hc, hfield⟩ := h
    rw [List.cons_append, splitAll, if_neg (Ne.symm hc), ih hfield]

/-- The fields of a text of fields with a separator behind each. -/
theorem splitAll_flatMap {separator : Char} {fields : List Text}
    (h : ∀ field ∈ fields, separator ∉ field) :
    splitAll separator (fields.flatMap (· ++ [separator])) = fields ++ [[]] := by
  induction fields with
  | nil => rfl
  | cons field fields ih =>
    obtain ⟨hfield, hfields⟩ := List.forall_mem_cons.mp h
    rw [List.flatMap_cons, List.append_assoc, List.singleton_append, splitAll_append hfield,
      ih hfields]
    rfl

/-- A line as it was read up to its line feed: a carriage return before the feed goes too. -/
def dropReturn (line : Text) : Text :=
  if line.getLast? = some '\r' then line.dropLast else line

/-- The lines of a text, without their ends. A line feed ends a line, a carriage return in front
of it belongs to the end, and a text that ends in a line feed has no further line after it. -/
def lines (t : Text) : List Text :=
  let fields := splitAll '\n' t
  let last := fields.getLast?.getD []
  fields.dropLast.map dropReturn ++ (if last.isEmpty then [] else [last])

/-- No line holds a line feed. -/
theorem notMem_of_mem_lines {t line : Text} (h : line ∈ lines t) : '\n' ∉ line := by
  rcases List.mem_append.mp h with hfront | hlast
  · obtain ⟨field, hfield, rfl⟩ := List.mem_map.mp hfront
    have hnot := notMem_of_mem_splitAll ((List.dropLast_sublist _).subset hfield)
    unfold dropReturn
    split
    · exact fun hmem => hnot ((List.dropLast_sublist _).subset hmem)
    · exact hnot
  · split at hlast
    · cases hlast
    next =>
      rw [List.mem_singleton.mp hlast]
      cases hfields : (splitAll '\n' t).getLast? with
      | none => exact List.not_mem_nil
      | some field => exact notMem_of_mem_splitAll (List.mem_of_getLast? hfields)

/-- The lines of a text of lines with a line feed behind each. -/
theorem lines_flatMap {ls : List Text} (h : ∀ line ∈ ls, '\n' ∉ line)
    (hreturn : ∀ line ∈ ls, line.getLast? ≠ some '\r') :
    lines (ls.flatMap (· ++ ['\n'])) = ls := by
  have hsame : ls.map dropReturn = ls :=
    (List.map_congr_left fun line hline => if_neg (hreturn line hline)).trans (List.map_id ls)
  rw [lines, splitAll_flatMap h]
  simp [hsame]

/-- The texts one after the other with `separator` between them. -/
def joinWith (separator : Text) (texts : List Text) : Text := separator.intercalate texts

/-- Decimal digits of a natural number. -/
def ofNat (n : Nat) : Text := Nat.toDigits 10 n

/-- Decimal digits of an integer, with a minus sign if it is negative. -/
def ofInt : Int → Text
  | .ofNat n => ofNat n
  | .negSucc n => '-' :: ofNat (n + 1)

/-- Reads a non-empty run of ASCII digits, and nothing else. -/
def toNat? (t : Text) : Option Nat :=
  if t.isEmpty || !t.all Char.isDigit then none
  else some (t.foldl (fun n c => 10 * n + (c.toNat - '0'.toNat)) 0)

end Text

end DialogueScript
