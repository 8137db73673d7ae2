import DialogueScript.Proofs.Template.Braces

/-!
# What replaces a pair of braces

A number has no braces (`isPlain_arithmeticText`), and an option stands in the inside that it is
chosen from (`chooseOption_isInfix`), so a replacement makes no new pair and breaks none.
-/

namespace DialogueScript.Template

/-! ## Texts without braces -/

/-- A text without braces. -/
def IsPlain (t : Text) : Prop := ∀ c ∈ t, isBrace c = false

@[simp] theorem isPlain_nil : IsPlain [] := by simp [IsPlain]

@[simp] theorem isPlain_cons {c : Char} {t : Text} :
    IsPlain (c :: t) ↔ isBrace c = false ∧ IsPlain t := List.forall_mem_cons

@[simp] theorem isPlain_append {s t : Text} : IsPlain (s ++ t) ↔ IsPlain s ∧ IsPlain t :=
  List.forall_mem_append

/-- Characters of a plain text make plain texts only, in whatever order they are put. -/
theorem IsPlain.of_subset {s t : Text} (h : IsPlain t) (hsubset : s ⊆ t) : IsPlain s :=
  fun c hc => h c (hsubset hc)

/-- A plain text has no brace that could still be opened. -/
theorem IsPlain.count_open {t : Text} (h : IsPlain t) : t.count '{' = 0 :=
  List.count_eq_zero.mpr fun hmem => absurd (h _ hmem) (by decide)

/-- Only what has no braces inside is replaced, so the innermost pairs come first. -/
theorem isPlain_of_isReplaceable {wanted : Text → Bool} {inner : Text}
    (h : isReplaceable wanted inner = true) : IsPlain inner := by
  simpa [IsPlain] using (Bool.and_eq_true_iff.mp h).1

/-! ## Numbers -/

theorem isPlain_ofNat (n : Nat) : IsPlain (Text.ofNat n) := by
  intro c hc
  have hdigit := Nat.isDigit_of_mem_toDigits (by decide) (by decide) hc
  rcases brace_cases c with rfl | rfl | hplain
  · simp at hdigit
  · simp at hdigit
  · exact hplain

theorem isPlain_ofInt (n : Int) : IsPlain (Text.ofInt n) := by
  cases n with
  | ofNat n => exact isPlain_ofNat n
  | negSucc n => exact isPlain_cons.mpr ⟨by decide, isPlain_ofNat _⟩

theorem isPlain_replicate (n : Nat) : IsPlain (List.replicate n '0') := by
  intro c hc
  rw [List.eq_of_mem_replicate hc]
  decide

/-- A decimal point and zeros around plain digits leave them plain. -/
theorem isPlain_positional {digits : Text} (h : IsPlain digits) (leading : Int) :
    IsPlain (Decimal.positional digits leading) := by
  have hplain : isBrace '0' = false ∧ isBrace '.' = false := by decide
  have htake := fun n => h.of_subset (List.take_subset n digits)
  have hdrop := fun n => h.of_subset (List.drop_subset n digits)
  unfold Decimal.positional
  split
  · simp [hplain, isPlain_replicate, h]
  · split
    · simp [hplain, isPlain_replicate, h]
    · simp [hplain, htake, hdrop]

/-- An exponent behind plain digits leaves them plain. -/
theorem isPlain_exponential {digits : Text} (h : IsPlain digits) (plusSign : Bool)
    (leading : Int) : IsPlain (Decimal.exponential plusSign digits leading) := by
  have hplain : isBrace 'e' = false ∧ isBrace '.' = false ∧ isBrace '+' = false := by decide
  have htake := fun n => h.of_subset (List.take_subset n digits)
  have htail := h.of_subset (List.tail_sublist digits).subset
  unfold Decimal.exponential
  dsimp only
  split <;> split <;> simp [hplain, htake, htail, h, isPlain_ofInt]

/-- Whichever layout writes a float, it writes no braces. -/
theorem isPlain_writeMagnitude (layout : Decimal.Layout) (x : Binary64) :
    IsPlain (layout.writeMagnitude x) := by
  -- which form is chosen does not matter
  have heither : ∀ (withExponent : Bool) (digits : Nat) (leading : Int),
      IsPlain (if withExponent then
          Decimal.exponential layout.plusSign (Text.ofNat digits) leading
        else Decimal.positional (Text.ofNat digits) leading) := by
    intro withExponent digits leading
    cases withExponent with
    | true => exact isPlain_exponential (isPlain_ofNat digits) _ _
    | false => exact isPlain_positional (isPlain_ofNat digits) _
  unfold Decimal.Layout.writeMagnitude
  dsimp only
  split
  · simp [isBrace]
  · exact heither _ _ _

/-- A written number has no braces. -/
theorem isPlain_numberText (n : Number) : IsPlain n.text := by
  cases n with
  | int i => exact isPlain_ofInt i.toInt
  | float x =>
    have hmagnitude := isPlain_writeMagnitude Number.floatLayout x
    show IsPlain (Number.floatLayout.write x)
    unfold Decimal.Layout.write
    dsimp only
    split
    · simp [Number.floatLayout, isBrace]
    · split <;> split <;> simp [hmagnitude, isBrace]

/-- What replaces an arithmetic expression is plain, also the empty text of one that fails. -/
theorem isPlain_arithmeticText (inner : Text) : IsPlain (arithmeticText inner).1 := by
  unfold arithmeticText
  cases Expr.evaluateNumber inner with
  | ok n => exact isPlain_numberText n
  | error fault => simp [isBrace]

/-! ## Options -/

/-- A field occurs in the text that joins it with others. -/
theorem isInfix_intercalate {separator field : Text} {fields : List Text} (h : field ∈ fields) :
    field <:+: separator.intercalate fields := by
  induction fields with
  | nil => cases h
  | cons first rest ih =>
    cases rest with
    | nil =>
      rw [List.mem_singleton.mp h]
      exact (List.infix_refl first).trans (by simp [List.intercalate])
    | cons second rest =>
      have hparts : separator.intercalate (first :: second :: rest)
          = first ++ (separator ++ separator.intercalate (second :: rest)) := by
        simp [List.intercalate]
      rw [hparts]
      rcases List.mem_cons.mp h with rfl | hrest
      · exact (List.prefix_append _ _).isInfix
      · exact (ih hrest).trans ((List.suffix_append _ _).trans (List.suffix_append _ _)).isInfix

/-- The fields of a text occur in it. -/
theorem isInfix_of_mem_splitAll {separator : Char} {t field : Text}
    (h : field ∈ Text.splitAll separator t) : field <:+: t := by
  have hinside : field <:+: [separator].intercalate (Text.splitAll separator t) :=
    isInfix_intercalate h
  rwa [Text.intercalate_splitAll] at hinside

/-- Both sides of a separator occur in the text, and without a separator the text is the first side.
-/
theorem splitOnce_getD_isInfix (separator t : Text) :
    ((Text.splitOnce separator t).getD (t, [])).1 <:+: t ∧
      ((Text.splitOnce separator t).getD (t, [])).2 <:+: t := by
  cases hsplit : Text.splitOnce separator t with
  | none => exact ⟨List.infix_refl t, List.nil_infix⟩
  | some parts =>
    rw [Text.splitOnce_eq_some hsplit, List.append_assoc]
    exact ⟨(List.prefix_append _ _).isInfix,
      ((List.suffix_append _ _).trans (List.suffix_append _ _)).isInfix⟩

/-- The last of several parts of a text is a part of it, and so is the empty text. -/
theorem getLast?_getD_isInfix {t : Text} {fields : List Text}
    (h : ∀ field ∈ fields, field <:+: t) : fields.getLast?.getD [] <:+: t := by
  cases hlast : fields.getLast? with
  | none => exact List.nil_infix
  | some last => exact h last (List.mem_of_getLast? hlast)

/-- Whichever option is chosen, it is one of the parts or empty. -/
theorem optionAt_isInfix {t : Text} {options : List Text} (index : Int)
    (h : ∀ option ∈ options, option <:+: t) : optionAt index options <:+: t := by
  cases index with
  | negSucc n => exact getLast?_getD_isInfix h
  | ofNat n =>
    show options[n]?.getD _ <:+: t
    cases hoption : options[n]? with
    | none => exact getLast?_getD_isInfix h
    | some option => exact h option (List.mem_of_getElem? hoption)

/-- An option stands in the inside that it is chosen from. -/
theorem chooseOption_isInfix (inner : Text) : (chooseOption inner).1 <:+: inner := by
  obtain ⟨-, hoptions⟩ := splitOnce_getD_isInfix ['@'] inner
  have hfields : ∀ field ∈ Text.splitAll '|' ((Text.splitOnce ['@'] inner).getD (inner, [])).2,
      field <:+: inner :=
    fun field hfield => (isInfix_of_mem_splitAll hfield).trans hoptions
  unfold chooseOption
  dsimp only
  split
  next flag _ =>
    obtain ⟨hfirst, hrest⟩ :=
      splitOnce_getD_isInfix ['|'] ((Text.splitOnce ['@'] inner).getD (inner, [])).2
    cases flag with
    | true => exact hfirst.trans hoptions
    | false => exact hrest.trans hoptions
  next =>
    split
    · exact optionAt_isInfix _ hfields
    · exact getLast?_getD_isInfix hfields

end DialogueScript.Template
