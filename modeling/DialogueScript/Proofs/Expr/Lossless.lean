import DialogueScript.Proofs.Expr.Apart
import DialogueScript.Proofs.Expr.Scanning
import DialogueScript.Proofs.List

/-!
# Tokens and blanks make up the text

A text that has tokens is laid out as their spellings with blanks in front of each (`laidOut`), and
this says all there is to say: where the tokens stand, which characters belong to them
(`LaidOut.covers_iff`), that each is the only token of its spelling (`Spelled.tokenize`), and that
other blanks between the spellings make no difference as long as there are any (`respaced`).
-/

namespace DialogueScript.Expr

/-! ## The layout of a text -/

/-- The text behind `offset` bytes is blanks, the spelling of a token, and so on up to the end. -/
inductive LaidOut : Nat → Text → List Lexeme → Prop
  | finish {offset : Nat} {gap : Text} (blank : ∀ c ∈ gap, Text.isBlank c = true) :
    LaidOut offset gap [⟨.finish, [], offset + Text.bytes gap⟩]
  | token {offset : Nat} {gap spelling rest : Text} {token : Token} {ts : List Lexeme}
    (blank : ∀ c ∈ gap, Text.isBlank c = true) (spelled : Spelled token spelling)
    (behind : LaidOut (offset + Text.bytes gap + Text.bytes spelling) rest ts) :
    LaidOut offset (gap ++ (spelling ++ rest)) (⟨token, spelling, offset + Text.bytes gap⟩ :: ts)

variable {offset : Nat} {t : Text} {ts : List Lexeme}

/-- A blank may stand in front of the gap. -/
theorem LaidOut.blank {c : Char} (hc : Text.isBlank c = true)
    (h : LaidOut (offset + c.utf8Size) t ts) : LaidOut offset (c :: t) ts := by
  generalize hplace : offset + c.utf8Size = place at h
  cases h with
  | finish blank =>
    have hgap := @LaidOut.finish offset _ (List.forall_mem_cons.mpr ⟨hc, blank⟩)
    rwa [Text.bytes_cons, ← Nat.add_assoc, hplace] at hgap
  | token blank spelled behind =>
    have hgap : ∀ gap : Text, offset + Text.bytes (c :: gap) = place + Text.bytes gap := by
      intro gap
      rw [Text.bytes_cons, ← Nat.add_assoc, hplace]
    rw [← hgap] at behind ⊢
    exact .token (List.forall_mem_cons.mpr ⟨hc, blank⟩) spelled behind

/-- A text with tokens is laid out as they say. -/
theorem laidOut (h : tokensFrom offset t = .ok ts) : LaidOut offset t ts := by
  induction offset, t using tokensFrom.induct generalizing ts with
  | case1 offset =>
    rw [tokensFrom_nil] at h
    obtain rfl := Except.ok.inj h
    exact @LaidOut.finish offset [] fun c hc => by cases hc
  | case2 offset c rest hblank ih =>
    rw [tokensFrom_cons, if_pos hblank] at h
    exact (ih h).blank hblank
  | case3 offset c rest hblank ih =>
    rw [tokensFrom_cons, if_neg hblank] at h
    obtain ⟨⟨token, size⟩, htoken, h⟩ := bind_eq_ok h
    obtain ⟨more, hmore, h⟩ := bind_eq_ok h
    obtain rfl := Except.ok.inj h
    have hspelled := spelled_of_readToken htoken (by simpa using hblank)
    have hparts : c :: rest = [] ++ ((c :: rest.take size) ++ rest.drop size) := by simp
    rw [hparts]
    exact @LaidOut.token offset [] _ _ _ _ (fun c hc => by cases hc) hspelled (ih size hmore)

namespace LaidOut

/-! ## Where tokens stand -/

theorem offset_le (h : LaidOut offset t ts) : ∀ lexeme ∈ ts, offset ≤ lexeme.offset := by
  induction h with
  | finish blank => exact List.forall_mem_singleton.mpr (Nat.le_add_right ..)
  | token blank spelled behind ih =>
    refine List.forall_mem_cons.mpr ⟨Nat.le_add_right .., fun lexeme hmem => ?_⟩
    have hbehind := ih lexeme hmem
    omega

/-- Offsets ascend, since every spelling takes some bytes. -/
theorem ascending (h : LaidOut offset t ts) : ts.Pairwise fun a b => a.offset < b.offset := by
  induction h with
  | finish blank => exact List.pairwise_singleton ..
  | token blank spelled behind ih =>
    refine List.pairwise_cons.mpr ⟨fun lexeme hmem => ?_, ih⟩
    have hbehind := behind.offset_le lexeme hmem
    have hspelling := spelled.bytes_pos
    show _ + _ < _
    omega

/-- A token begins between two characters, and its spelling is there. -/
theorem place (h : LaidOut offset t ts) : ∀ lexeme ∈ ts, ∃ before after,
    Text.cut? (lexeme.offset - offset) t = some (before, lexeme.spelling ++ after) := by
  induction h with
  | @finish offset gap blank =>
    refine List.forall_mem_singleton.mpr ⟨gap, [], ?_⟩
    rw [Text.cut?_eq_some_iff]
    simp
  | @token offset gap spelling rest token ts blank spelled behind ih =>
    refine List.forall_mem_cons.mpr ⟨⟨gap, rest, ?_⟩, fun lexeme hmem => ?_⟩
    · rw [Text.cut?_eq_some_iff]
      simp
    · obtain ⟨before, after, hcut⟩ := ih lexeme hmem
      obtain ⟨rfl, hbefore⟩ := Text.cut?_eq_some_iff.mp hcut
      have hle := behind.offset_le lexeme hmem
      refine ⟨gap ++ (spelling ++ before), after, Text.cut?_eq_some_iff.mpr ⟨by simp, ?_⟩⟩
      rw [Text.bytes_append, Text.bytes_append]
      omega

/-- The last token is the end, behind all bytes, and each other one has a spelling. -/
theorem ends (h : LaidOut offset t ts) : ∃ front,
    ts = front ++ [⟨.finish, [], offset + Text.bytes t⟩] ∧
      ∀ lexeme ∈ front, Spelled lexeme.token lexeme.spelling := by
  induction h with
  | finish blank => exact ⟨[], rfl, fun lexeme hmem => by cases hmem⟩
  | @token offset gap spelling rest token ts blank spelled behind ih =>
    obtain ⟨front, rfl, hfront⟩ := ih
    refine ⟨⟨token, spelling, offset + Text.bytes gap⟩ :: front, ?_,
      List.forall_mem_cons.mpr ⟨spelled, hfront⟩⟩
    rw [Text.bytes_append, Text.bytes_append, Nat.add_assoc, Nat.add_assoc, List.cons_append]

end LaidOut

/-! ## Which characters belong to tokens -/

/-- The byte at a place belongs to the spelling of the token. -/
def Lexeme.Covers (lexeme : Lexeme) (place : Nat) : Prop :=
  lexeme.offset ≤ place ∧ place < lexeme.offset + Text.bytes lexeme.spelling

/-- A lexeme without the property does not count. -/
theorem existsUnique_mem_cons {lexeme : Lexeme} {p : Lexeme → Prop} (h : ¬ p lexeme) :
    (∃! other, other ∈ lexeme :: ts ∧ p other) ↔ ∃! other, other ∈ ts ∧ p other := by
  refine existsUnique_congr fun other => and_congr_left fun hother => ?_
  rw [List.mem_cons]
  refine or_iff_right ?_
  rintro rfl
  exact h hother

namespace LaidOut

/-- No token covers a place in front of the text. -/
theorem not_covers (h : LaidOut offset t ts) {place : Nat} (hplace : place < offset) :
    ∀ lexeme ∈ ts, ¬ lexeme.Covers place := fun lexeme hmem hcovers => by
  have hle := h.offset_le lexeme hmem
  have hcovered := hcovers.1
  omega

/-- The characters that are not blank belong to one token each, and the blanks to none. -/
theorem covers_iff (h : LaidOut offset t ts) {before after : Text} {c : Char}
    (hparts : t = before ++ c :: after) : Text.isBlank c = false
      ↔ ∃! lexeme, lexeme ∈ ts ∧ lexeme.Covers (offset + Text.bytes before) := by
  induction h generalizing before with
  | @finish offset gap blank =>
    have hc : Text.isBlank c = true := blank c (by simp [hparts])
    refine iff_of_false (by simp [hc]) fun ⟨lexeme, ⟨hmem, hle, hlt⟩, _⟩ => ?_
    obtain rfl := List.mem_singleton.mp hmem
    exact Nat.not_lt.mpr hle hlt
  | @token offset gap spelling rest token ts blank spelled behind ih =>
    have hsize : 0 < c.utf8Size := c.utf8Size_pos
    have hspelling := spelled.bytes_pos
    rcases append_eq_append_cons hparts with ⟨tail, rfl, -⟩ | ⟨front, hbehind, rfl⟩
    · -- in front of the token
      have hc : Text.isBlank c = true := blank c (by simp)
      refine iff_of_false (by simp [hc]) fun ⟨lexeme, ⟨hmem, hcovers⟩, _⟩ => ?_
      rw [Text.bytes_append, Text.bytes_cons] at behind hmem
      rcases List.mem_cons.mp hmem with rfl | hmem
      · have hle := hcovers.1
        dsimp only at hle
        omega
      · exact behind.not_covers (by omega) lexeme hmem hcovers
    · rw [Text.bytes_append]
      rcases append_eq_append_cons hbehind with ⟨tail, rfl, -⟩ | ⟨more, rfl, rfl⟩
      · -- inside its spelling
        refine iff_of_true (spelled.blank c (by simp)) ?_
        rw [Text.bytes_append, Text.bytes_cons] at behind
        refine ⟨_, ⟨List.mem_cons_self, ⟨?_, ?_⟩⟩, fun lexeme ⟨hmem, hcovers⟩ => ?_⟩
        · dsimp only
          omega
        · dsimp only
          rw [Text.bytes_append, Text.bytes_cons]
          omega
        · rcases List.mem_cons.mp hmem with rfl | hmem
          · rfl
          · exact absurd hcovers (behind.not_covers (by omega) lexeme hmem)
      · -- behind it
        have hfirst : ¬ (⟨token, spelling, offset + Text.bytes gap⟩ : Lexeme).Covers
            (offset + (Text.bytes gap + Text.bytes (spelling ++ more))) := fun hcovers => by
          have hlt := hcovers.2
          rw [Text.bytes_append] at hlt
          dsimp only at hlt
          omega
        have hplace : offset + Text.bytes gap + Text.bytes spelling + Text.bytes more
            = offset + (Text.bytes gap + Text.bytes (spelling ++ more)) := by
          rw [Text.bytes_append]
          omega
        rw [ih rfl, hplace]
        exact (existsUnique_mem_cons hfirst).symm

end LaidOut

/-! ## Blanks between tokens -/

/-- Words in a row, with a gap in front of each. -/
def weave (gaps words : List Text) : Text := (gaps.zipWith (· ++ ·) words).flatten

theorem weave_cons (gap word : Text) (gaps words : List Text) :
    weave (gap :: gaps) (word :: words) = gap ++ (word ++ weave gaps words) := by
  simp [weave]

/-- A text is its spellings, woven with the gaps in front of them. -/
theorem LaidOut.woven (h : LaidOut offset t ts) : ∃ gaps : List Text, gaps.length = ts.length ∧
    (∀ gap ∈ gaps, ∀ c ∈ gap, Text.isBlank c = true) ∧ weave gaps (ts.map (·.spelling)) = t := by
  induction h with
  | @finish offset gap blank =>
    exact ⟨[gap], rfl, List.forall_mem_singleton.mpr blank, by simp [weave]⟩
  | @token offset gap spelling rest token ts blank spelled behind ih =>
    obtain ⟨gaps, hlength, hblank, hweave⟩ := ih
    refine ⟨gap :: gaps, congrArg Nat.succ hlength, List.forall_mem_cons.mpr ⟨blank, hblank⟩, ?_⟩
    rw [List.map_cons, weave_cons, hweave]

/-- A gap begins with a blank, unless it is empty. -/
theorem blankFirst_append {gap : Text} (hgap : ∀ c ∈ gap, Text.isBlank c = true) {rest : Text}
    (h : gap = [] → BlankFirst rest) : BlankFirst (gap ++ rest) := by
  cases gap with
  | nil => exact h rfl
  | cons c gap =>
    intro d hd
    obtain rfl : c = d := Option.some.inj hd
    exact hgap c List.mem_cons_self

/-- If no gap but the last may be empty, a blank or the end comes first. -/
theorem blankFirst_weave {gaps : List Text}
    (hblank : ∀ gap ∈ gaps, ∀ c ∈ gap, Text.isBlank c = true) {words : List Text}
    (hlength : gaps.length = words.length + 1) (hne : ∀ gap ∈ gaps.dropLast, gap ≠ []) :
    BlankFirst (weave gaps (words ++ [[]])) := by
  match gaps, words with
  | [gap], [] =>
    have hgap := hblank gap List.mem_cons_self
    have hweave : weave [gap] ([] ++ [[]]) = gap ++ [] := by simp [weave]
    rw [hweave]
    exact blankFirst_append hgap fun _ c hc => by cases hc
  | gap :: next :: gaps, word :: words =>
    rw [List.cons_append, weave_cons]
    exact blankFirst_append (hblank gap List.mem_cons_self) fun hnil =>
      absurd hnil (hne gap List.mem_cons_self)

/-- Spellings with other blanks in front of them, some between any two, are the same tokens. -/
theorem respaced {front : List Lexeme}
    (hspelled : ∀ lexeme ∈ front, Spelled lexeme.token lexeme.spelling) {gaps : List Text}
    (hlength : gaps.length = front.length + 1)
    (hblank : ∀ gap ∈ gaps, ∀ c ∈ gap, Text.isBlank c = true)
    (hne : ∀ gap ∈ gaps.tail.dropLast, gap ≠ []) (offset : Nat) :
    ∃ ts, tokensFrom offset (weave gaps (front.map (·.spelling) ++ [[]])) = .ok ts ∧
      ts.map (fun lexeme => (lexeme.token, lexeme.spelling))
        = front.map (fun lexeme => (lexeme.token, lexeme.spelling)) ++ [(.finish, [])] := by
  induction front generalizing gaps offset with
  | nil =>
    obtain ⟨gap, rfl⟩ := List.length_eq_one_iff.mp hlength
    have hgap := hblank gap List.mem_cons_self
    have hweave : weave [gap] ([].map (fun lexeme : Lexeme => lexeme.spelling) ++ [[]])
        = gap ++ [] := by simp [weave]
    refine ⟨[⟨.finish, [], offset + Text.bytes gap⟩], ?_, rfl⟩
    rw [hweave, tokensFrom_blank hgap, tokensFrom_nil]
  | cons lexeme front ih =>
    obtain ⟨hlexeme, hfront⟩ := List.forall_mem_cons.mp hspelled
    match gaps, hlength with
    | gap :: gaps, hlength =>
      obtain ⟨hgap, hgaps⟩ := List.forall_mem_cons.mp hblank
      have hlength' : gaps.length = front.length + 1 := Nat.succ.inj hlength
      -- behind the first token, every gap but the last stands between two tokens
      have hne' : ∀ other ∈ gaps.tail.dropLast, other ≠ [] := fun other hmem => by
        rw [← List.tail_dropLast] at hmem
        exact hne other (List.mem_of_mem_tail hmem)
      obtain ⟨ts, hts, hsame⟩ := ih hfront hlength' hgaps hne'
        (offset + Text.bytes gap + Text.bytes lexeme.spelling)
      refine ⟨⟨lexeme.token, lexeme.spelling, offset + Text.bytes gap⟩ :: ts, ?_, ?_⟩
      · rw [List.map_cons, List.cons_append, weave_cons, tokensFrom_blank hgap,
          hlexeme.tokensFrom (blankFirst_weave hgaps (by simpa using hlength') hne), hts]
        rfl
      · rw [List.map_cons, hsame, List.map_cons, List.cons_append]

/-- A spelling alone is its one token. -/
theorem Spelled.tokenize {token : Token} {spelling : Text} (h : Spelled token spelling) :
    tokenize spelling
      = .ok [⟨token, spelling, 0⟩, ⟨.finish, [], Text.bytes spelling⟩] := by
  have hnothing : BlankFirst [] := fun c hc => by cases hc
  have htokens := h.tokensFrom hnothing 0
  rw [List.append_nil, Nat.zero_add, tokensFrom_nil] at htokens
  exact htokens

/-! ## Nothing is lost -/

/-- The tokens of a text hold all of it but its blanks. -/
structure Lossless (t : Text) (ts : List Lexeme) : Prop where
  /-- The offsets ascend. -/
  ascending : ts.Pairwise fun a b => a.offset < b.offset
  /-- At the offset of a token its spelling begins. -/
  place : ∀ lexeme ∈ ts, ∃ before after,
    Text.cut? lexeme.offset t = some (before, lexeme.spelling ++ after)
  /-- The end alone has no spelling. It stands behind all bytes of the text. -/
  ends : ∃ front, ts = front ++ [⟨.finish, [], Text.bytes t⟩] ∧
    ∀ lexeme ∈ front, lexeme.token ≠ .finish ∧ lexeme.spelling ≠ []
  /-- The text is blanks and spellings by turns. -/
  woven : ∃ gaps : List Text, gaps.length = ts.length ∧
    (∀ gap ∈ gaps, ∀ c ∈ gap, Text.isBlank c = true) ∧ weave gaps (ts.map (·.spelling)) = t
  /-- The characters that are not blank belong to one token each, and the blanks to none. -/
  covers_iff : ∀ before c after, t = before ++ c :: after → (Text.isBlank c = false
    ↔ ∃! lexeme, lexeme ∈ ts ∧ lexeme.Covers (Text.bytes before))
  /-- A spelling alone is its one token. -/
  alone : ∀ lexeme ∈ ts, lexeme.token ≠ .finish → tokenize lexeme.spelling
    = .ok [⟨lexeme.token, lexeme.spelling, 0⟩, ⟨.finish, [], Text.bytes lexeme.spelling⟩]
  /-- Other blanks around the spellings, some between any two, make no difference. -/
  respaced : ∀ gaps : List Text, gaps.length = ts.length →
    (∀ gap ∈ gaps, ∀ c ∈ gap, Text.isBlank c = true) →
    (∀ gap ∈ gaps.tail.dropLast, gap ≠ []) →
    ∃ others, tokenize (weave gaps (ts.map (·.spelling))) = .ok others ∧
      others.map (fun lexeme => (lexeme.token, lexeme.spelling))
        = ts.map (fun lexeme => (lexeme.token, lexeme.spelling))

/-- Splitting a text into tokens loses nothing of it. -/
theorem lossless_of_tokenize (h : tokenize t = .ok ts) : Lossless t ts := by
  have hlaid : LaidOut 0 t ts := laidOut h
  obtain ⟨front, hts, hspelled⟩ := hlaid.ends
  rw [Nat.zero_add] at hts
  exact
    { ascending := hlaid.ascending
      place := hlaid.place
      ends := ⟨front, hts, fun lexeme hmem =>
        ⟨(hspelled lexeme hmem).finish, (hspelled lexeme hmem).ne_nil⟩⟩
      woven := hlaid.woven
      covers_iff := fun before c after hparts => by
        have hcovers := hlaid.covers_iff hparts
        rwa [Nat.zero_add] at hcovers
      alone := fun lexeme hmem hfinish => by
        rw [hts, List.mem_append, List.mem_singleton] at hmem
        rcases hmem with hmem | rfl
        · exact (hspelled lexeme hmem).tokenize
        · exact absurd rfl hfinish
      respaced := fun gaps hlength hblank hne => by
        rw [hts, List.length_append] at hlength
        rw [hts, List.map_append, List.map_append]
        exact Expr.respaced hspelled hlength hblank hne 0 }

/-- Reading tokens between characters alone, never inside one, gives the tokens and faults of the
text; and if there are tokens, they hold all of the text but its blanks, which do not matter. -/
theorem tokenize_lossless (t : Text) :
    Cursor.tokenize t = Cursor.found ((tokenize t).map (·.map Cursor.placed)) ∧
    ∀ ts, tokenize t = .ok ts → Lossless t ts :=
  ⟨Cursor.tokenize_eq t, fun _ => lossless_of_tokenize⟩

/-- A number, a variable and words with operators in between, and a blank of two bytes. -/
theorem tokenize_lossless_tight :
    Lossless "1.5e2<=$a$**x1\u00a0\u00e9".toList
      [⟨.float (Binary64.ofDecimal 15 1), "1.5e2".toList, 0⟩, ⟨.lessEqual, "<=".toList, 5⟩,
        ⟨.var "$a$".toList, "$a$".toList, 7⟩, ⟨.starStar, "**".toList, 10⟩,
        ⟨.word "x1".toList, "x1".toList, 12⟩, ⟨.word ['\u00e9'], ['\u00e9'], 16⟩,
        ⟨.finish, [], 18⟩] :=
  (tokenize_lossless _).2 _ (eq_ok_of_toOption (by decide +kernel))

end DialogueScript.Expr
