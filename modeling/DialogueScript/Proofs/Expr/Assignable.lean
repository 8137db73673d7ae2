import DialogueScript.Name
import DialogueScript.Proofs.Alphabet.Inclusion
import DialogueScript.Proofs.Expr.Lossless

/-!
# Names of variables and their tokens

A name that may be assigned to and a variable in an expression are written alike but for the
characters behind the first letter: a name has word characters there (`isVariable_iff`), a token has
letters and numbers (`isToken_iff`). The two classes are the same in ASCII. Over all of Unicode they
differ in both directions: words also have marks, joiners and connecting punctuation
(`extends_of_isWord`), and tokens also have fractions, superscripts and the like, and the letters of
a newer edition (`isNumeric_of_continuesWord`).
-/

namespace DialogueScript.Expr

open Alphabet

/-! ## Two classes of characters -/

/-- Word characters that extend no other character but are no letters: spacing marks, a joiner and
connecting punctuation. -/
def joiners : CodeRanges := [
  (0xF3E, 0xF3F), (0x1CE1, 0x1CE1), (0x1CF7, 0x1CF7), (0x200D, 0x200D), (0x203F, 0x2040),
  (0x2054, 0x2054), (0xABEC, 0xABEC), (0xFE33, 0xFE34), (0xFE4D, 0xFE4F), (0xFF3F, 0xFF3F)]

/-- Letters of edition 17 of Unicode that are not in edition 16. -/
def newerLetters : CodeRanges := [
  (0x88F, 0x88F), (0xC5C, 0xC5C), (0xCDC, 0xCDC), (0xA7CE, 0xA7CF), (0xA7D2, 0xA7D2),
  (0xA7D4, 0xA7D4), (0xA7F1, 0xA7F1), (0x10940, 0x10959), (0x10EC5, 0x10EC7), (0x10EFA, 0x10EFB),
  (0x11B60, 0x11B67), (0x11DB0, 0x11DDB), (0x16EA0, 0x16EB8), (0x16EBB, 0x16ED3),
  (0x16FF2, 0x16FF3), (0x187F8, 0x187FF), (0x18D09, 0x18D1E), (0x18D80, 0x18DF2),
  (0x1E6C0, 0x1E6DE), (0x1E6E0, 0x1E6F5), (0x1E6FE, 0x1E6FF), (0x2B73A, 0x2B73F),
  (0x2CEA2, 0x2CEAD), (0x323B0, 0x33479)]

section Classes

variable {c : Char}

theorem eq_lowLine_of_contains (h : CodeRanges.contains [(0x5F, 0x5F)] c.toNat = true) :
    c = '_' := by
  obtain ⟨hle, hge⟩ : 0x5F ≤ c.toNat ∧ c.toNat ≤ 0x5F := by
    simpa [CodeRanges.Holds] using CodeRanges.holds_of_contains h
  have hcode : c.toNat = 0x5F := by omega
  rw [← Char.ofNat_toNat c, hcode]

/-- A word character that is neither letter nor number. -/
theorem extends_of_isWord (hword : isWord c = true) (hc : continuesWord c = false) :
    extendsGrapheme c = true ∨ joiners.contains c.toNat = true := by
  have hcases := CodeRanges.contains_of_without
    [alphabeticRanges, numberRanges, [(0x5F, 0x5F)], graphemeExtendRanges, joiners]
    (by decide +kernel) (by decide +kernel) hword
  simp only [continuesWord, isAlphanumeric, Bool.or_eq_false_iff, beq_eq_false_iff_ne] at hc
  obtain ⟨⟨halphabetic, hnumeric⟩, hline⟩ := hc
  obtain ⟨other, hmem, hother⟩ := List.any_eq_true.mp hcases
  simp only [List.mem_cons, List.not_mem_nil, or_false] at hmem
  rcases hmem with rfl | rfl | rfl | rfl | rfl
  · exact absurd hother (Bool.eq_false_iff.mp halphabetic)
  · exact absurd hother (Bool.eq_false_iff.mp hnumeric)
  · exact absurd (eq_lowLine_of_contains hother) hline
  · exact .inl hother
  · exact .inr hother

/-- A letter or number that is no word character. -/
theorem isNumeric_of_continuesWord (hc : continuesWord c = true) (hword : isWord c = false) :
    isNumeric c = true ∨ newerLetters.contains c.toNat = true := by
  simp only [continuesWord, isAlphanumeric, Bool.or_eq_true, beq_iff_eq] at hc
  rcases hc with (halphabetic | hnumeric) | rfl
  · have hcases := CodeRanges.contains_of_without [wordRanges, numberRanges, newerLetters]
      (by decide +kernel) (by decide +kernel) halphabetic
    obtain ⟨other, hmem, hother⟩ := List.any_eq_true.mp hcases
    simp only [List.mem_cons, List.not_mem_nil, or_false] at hmem
    rcases hmem with rfl | rfl | rfl
    · exact absurd hother (Bool.eq_false_iff.mp hword)
    · exact .inl hother
    · exact .inr hother
  · exact .inl hnumeric
  · exact absurd hword (by decide +kernel)

/-- A character of one class only. -/
theorem one_of_differ (h : isWord c ≠ continuesWord c) :
    (isWord c = true ∧ (extendsGrapheme c = true ∨ joiners.contains c.toNat = true)) ∨
    (continuesWord c = true ∧ (isNumeric c = true ∨ newerLetters.contains c.toNat = true)) := by
  cases hword : isWord c with
  | true =>
    cases hc : continuesWord c with
    | true => exact absurd (hword.trans hc.symm) h
    | false => exact .inl ⟨rfl, extends_of_isWord hword hc⟩
  | false =>
    cases hc : continuesWord c with
    | true => exact .inr ⟨rfl, isNumeric_of_continuesWord hc hword⟩
    | false => exact absurd (hword.trans hc.symm) h

/-- What holds of the first 128 characters holds of every character of ASCII. -/
theorem of_ascii {p : Char → Bool} (hall : (List.range 128).all (fun n => p (Char.ofNat n)) = true)
    (h : c.toNat < 128) : p c = true := by
  have hc := List.all_eq_true.mp hall c.toNat (List.mem_range.mpr h)
  rwa [Char.ofNat_toNat] at hc

/-- Below 128 the two classes are the same. -/
theorem isWord_eq_of_ascii (h : c.toNat < 128) : isWord c = continuesWord c :=
  beq_iff_eq.mp (of_ascii (p := fun c => isWord c == continuesWord c) (by decide +kernel) h)

theorem toNat_of_isAsciiLetter (h : isAsciiLetter c = true) : c.toNat < 128 := by
  simp only [isAsciiLetter, Bool.or_eq_true, Bool.and_eq_true, decide_eq_true_eq, Char.le_def,
    UInt32.le_iff_toNat_le] at h
  rcases h with ⟨-, hle⟩ | ⟨-, hle⟩ <;> exact Nat.lt_of_le_of_lt hle (by decide)

/-- A letter continues words. -/
theorem continuesWord_of_isAsciiLetter (h : isAsciiLetter c = true) : continuesWord c = true := by
  have hletter := of_ascii (p := fun c => !isAsciiLetter c || continuesWord c) (by decide +kernel)
    (toNat_of_isAsciiLetter h)
  simpa [h] using hletter

end Classes

/-! ## Names and tokens -/

/-- The text is one variable, and nothing else. -/
def IsToken (s : Text) : Prop :=
  tokenize s = .ok [⟨.var s, s, 0⟩, ⟨.finish, [], Text.bytes s⟩]

/-- Between dollar signs stand a letter of ASCII and characters of the class. -/
def Delimited (p : Char → Bool) (s : Text) : Prop :=
  ∃ first word, s = '$' :: first :: (word ++ ['$']) ∧ isAsciiLetter first = true ∧
    ∀ c ∈ word, p c = true

section Names

variable {s : Text} {p q : Char → Bool}

/-- The pattern for names takes a dollar, a letter, characters of words and a dollar. -/
theorem isVariable_iff : Name.isVariable s = true ↔ Delimited isWord s := by
  constructor
  · intro h
    unfold Name.isVariable at h
    split at h
    next first rest =>
      simp only [Bool.and_eq_true, beq_iff_eq] at h
      obtain ⟨⟨hletter, hlast⟩, hword⟩ := h
      obtain ⟨word, rfl⟩ := List.getLast?_eq_some_iff.mp hlast
      rw [List.dropLast_concat] at hword
      exact ⟨first, word, rfl, hletter, List.all_eq_true.mp hword⟩
    next => cases h
  · rintro ⟨first, word, rfl, hletter, hword⟩
    simpa [Name.isVariable, hletter] using hword

/-- The lexer takes the same with its own class of characters. -/
theorem token_isVariable_iff : isVariable s = true ↔ Delimited continuesWord s := by
  constructor
  · intro h
    unfold isVariable at h
    split at h
    next rest =>
      simp only [Bool.and_eq_true, beq_iff_eq] at h
      obtain ⟨⟨hlast, hletter⟩, hword⟩ := h
      obtain ⟨name, rfl⟩ := List.getLast?_eq_some_iff.mp hlast
      rw [List.dropLast_concat] at hword
      cases name with
      -- the dollar that opens the name does not close it
      | nil => exact absurd hletter (by decide)
      | cons first word =>
        obtain ⟨-, hword⟩ := List.forall_mem_cons.mp (List.all_eq_true.mp hword)
        exact ⟨first, word, rfl, hletter, hword⟩
    next => cases h
  · rintro ⟨first, word, rfl, hletter, hword⟩
    have hfirst := continuesWord_of_isAsciiLetter hletter
    have hall : (first :: word).all continuesWord = true :=
      List.all_eq_true.mpr (List.forall_mem_cons.mpr ⟨hfirst, hword⟩)
    show isVariable ('$' :: ((first :: word) ++ ['$'])) = true
    rw [isVariable, List.getLast?_concat, List.dropLast_concat, hall, List.cons_append,
      List.head?_cons, Option.any_some, hletter]
    rfl

/-- A text is a single token of a variable exactly if the lexer takes all of it as a name. -/
theorem isToken_iff : IsToken s ↔ Delimited continuesWord s := by
  rw [← token_isVariable_iff]
  constructor
  · intro h
    exact lexed_tokensFrom h ⟨.var s, s, 0⟩ List.mem_cons_self _ rfl
  · intro h
    obtain ⟨tail, rfl, hread⟩ := @readToken_var [] 0 _ h
    rw [List.append_nil] at hread
    have hspelled := spelled_of_readToken hread (by decide)
    rw [List.take_length] at hspelled
    exact hspelled.tokenize

/-! ## Where the two agree -/

/-- A text that is delimited with one class is so with another one if its characters are in both
classes or in none. -/
theorem Delimited.congr (h : Delimited p s) (heq : ∀ c ∈ s, p c = q c) : Delimited q s := by
  obtain ⟨first, word, rfl, hletter, hword⟩ := h
  refine ⟨first, word, rfl, hletter, fun c hc => ?_⟩
  rw [← heq c (by simp [hc])]
  exact hword c hc

/-- A text that is delimited with two classes has no character of one of them alone if dollar signs
and letters of ASCII are none. -/
theorem Delimited.eq_of_both (hp : Delimited p s) (hq : Delimited q s) (hdollar : p '$' = q '$')
    (hletters : ∀ c, isAsciiLetter c = true → p c = q c) : ∀ c ∈ s, p c = q c := by
  obtain ⟨first, word, rfl, hletter, hword⟩ := hp
  obtain ⟨other, otherWord, heq, -, hother⟩ := hq
  obtain ⟨-, hrest⟩ := List.cons.inj heq
  obtain ⟨rfl, hwords⟩ := List.cons.inj hrest
  obtain rfl := List.append_cancel_right hwords
  intro c hc
  simp only [List.mem_cons, List.mem_append, List.not_mem_nil, or_false] at hc
  rcases hc with rfl | rfl | hc | rfl
  · exact hdollar
  · exact hletters c hletter
  · rw [hword c hc, hother c hc]
  · exact hdollar

/-- The names that may be assigned to and the tokens of variables are the same unless a character
behind the first letter is a word character only or a letter or number only. -/
theorem isVariable_iff_isToken_iff : (Name.isVariable s = true ↔ IsToken s)
    ↔ (Name.isVariable s = true ∨ IsToken s → ∀ c ∈ s, isWord c = continuesWord c) := by
  rw [isVariable_iff, isToken_iff]
  have hdollar : isWord '$' = continuesWord '$' := by decide +kernel
  constructor
  · intro h hone
    have hboth : Delimited isWord s ∧ Delimited continuesWord s := by
      rcases hone with hname | htoken
      · exact ⟨hname, h.mp hname⟩
      · exact ⟨h.mpr htoken, htoken⟩
    exact hboth.1.eq_of_both hboth.2 hdollar fun c hc =>
      isWord_eq_of_ascii (toNat_of_isAsciiLetter hc)
  · intro h
    constructor
    · exact fun hname => hname.congr (h (.inl hname))
    · exact fun htoken => htoken.congr fun c hc => (h (.inr htoken) c hc).symm

end Names

/-- A text is assigned to as a name if its characters behind the first letter are word characters,
and it is a token if they are letters and numbers. The two are the same unless the text is one of
them and has a character that is in one class only, and in ASCII there is none. Those that there are
beyond it are marks, joiners and connecting punctuation on one side, and other numbers and letters
of a newer edition on the other. -/
theorem names_tokens_agree_iff (s : Text) :
    (Name.isVariable s = true ↔ Delimited isWord s) ∧
    (IsToken s ↔ Delimited continuesWord s) ∧
    ((Name.isVariable s = true ↔ IsToken s)
      ↔ (Name.isVariable s = true ∨ IsToken s → ∀ c ∈ s, isWord c = continuesWord c)) ∧
    ((∀ c ∈ s, c.toNat < 128) → (Name.isVariable s = true ↔ IsToken s)) ∧
    ∀ c ∈ s, isWord c ≠ continuesWord c →
      (isWord c = true ∧ (extendsGrapheme c = true ∨ joiners.contains c.toNat = true)) ∨
      (continuesWord c = true ∧ (isNumeric c = true ∨ newerLetters.contains c.toNat = true)) :=
  ⟨isVariable_iff, isToken_iff, isVariable_iff_isToken_iff,
    fun hascii => isVariable_iff_isToken_iff.mpr fun _ c hc => isWord_eq_of_ascii (hascii c hc),
    fun _ _ => one_of_differ⟩

theorem names_tokens_agree_iff_ascii : IsToken "$tea_1$".toList :=
  ((names_tokens_agree_iff "$tea_1$".toList).2.2.2.1 (by simp)).mp (by decide +kernel)

/-- An accent of its own may be in a name but not in a token, and a raised digit the other way. -/
theorem names_tokens_differ_accent :
    (Name.isVariable "$cafe\u0301$".toList = true ∧
      tokenize "$cafe\u0301$".toList = .error (.unterminatedVariable 0)) ∧
    (Name.isVariable "$x\u00b2$".toList = false ∧ IsToken "$x\u00b2$".toList) ∧
    ¬ ∀ s, Name.isVariable s = true ↔ IsToken s := by
  have hname : Name.isVariable "$x\u00b2$".toList = false := by decide +kernel
  have htoken : IsToken "$x\u00b2$".toList := eq_ok_of_toOption (by decide +kernel)
  refine ⟨⟨by decide +kernel, by with_unfolding_all rfl⟩, ⟨hname, htoken⟩, fun h => ?_⟩
  rw [(h _).mpr htoken] at hname
  exact Bool.noConfusion hname

end DialogueScript.Expr
