import DialogueScript.Json.Reader
import DialogueScript.Json.Writer

/-!
# JSON that is written reads back

A text in quotes reads back as that text, whatever follows it, and holds no control character but
those around it (`readValue_quote`, `le_toNat_of_mem_quote`). So the compact form of a value without
numbers is a JSON text of exactly that value (`parse_compact`): every value ends where its own signs
say so, which is why nothing needs to be known about what follows.
-/

namespace DialogueScript.Json

open Alphabet

/-! ## Texts in quotes -/

/-- The number of a character is never that of a surrogate. -/
theorem charOf?_toNat (c : Char) : charOf? c.toNat = some c := by
  have hvalid : c.toNat.isValidChar := c.valid
  rw [charOf?, dif_pos hvalid]
  rfl

/-- The four digits of a control character stand for it. -/
theorem hexDigits_of_lt : ∀ n < 32,
    ['0', '0', hexDigit (n / 16), hexDigit (n % 16)].all isHexDigit = true ∧
      hexNumber ['0', '0', hexDigit (n / 16), hexDigit (n % 16)] = n := by
  decide

/-- Control characters are written with four digits, which are read back. -/
theorem readCoded_of_lt {c : Char} (hc : c.toNat < 32) (rest : Text) :
    readCoded ('0' :: '0' :: hexDigit (c.toNat / 16) :: hexDigit (c.toNat % 16) :: rest)
      = some (some c, rest) := by
  obtain ⟨hdigits, hcode⟩ := hexDigits_of_lt c.toNat hc
  have hread : readCode ('0' :: '0' :: hexDigit (c.toNat / 16) :: hexDigit (c.toNat % 16) :: rest)
      = some (c.toNat, rest) := by
    rw [readCode, List.take_succ_cons, List.take_succ_cons, List.take_succ_cons,
      List.take_succ_cons, List.take_zero, if_pos ⟨rfl, hdigits⟩, hcode]
    rfl
  have hhalf : ¬ (0xD800 ≤ c.toNat ∧ c.toNat ≤ 0xDBFF) := by omega
  rw [readCoded, hread]
  simp [hhalf, charOf?_toNat]

/-- A character inside quotes reads as itself. -/
theorem readString_quoteChar (c : Char) (fuel : Nat) (rest : Text) :
    readString (fuel + 1) (quoteChar c ++ rest)
      = (readString fuel rest).map fun read => (read.1.map (c :: ·), read.2) := by
  unfold quoteChar
  split
  case h_8 hquote hslash _ _ _ _ _ =>
    split
    next hc =>
      show (readCoded ('0' :: '0' :: hexDigit (c.toNat / 16) :: hexDigit (c.toNat % 16) ::
        rest)).bind _ = _
      rw [readCoded_of_lt hc]
      cases hread : readString fuel rest with
      | none => simp [hread]
      | some read => cases htext : read.1 <;> simp [hread, htext]
    next hc =>
      have hplain : ¬ (c.toNat < 32 ∨ c = '\\') := not_or.mpr ⟨hc, hslash⟩
      rw [List.singleton_append, readString, if_neg hplain]
      · cases readString fuel rest <;> rfl
      all_goals simp_all
  -- the characters with an escape of one letter
  all_goals cases hread : readString fuel rest <;> simp [readString, escapedChar?, hread]

/-- Characters in a row are read back up to the closing quote. -/
theorem readString_flatMap_quoteChar {fuel : Nat} (t rest : Text) (h : t.length < fuel) :
    readString fuel (t.flatMap quoteChar ++ '"' :: rest) = some (some t, rest) := by
  induction t generalizing fuel with
  | nil =>
    obtain ⟨fuel, rfl⟩ := Nat.exists_eq_succ_of_ne_zero (Nat.ne_zero_of_lt h)
    rfl
  | cons c t ih =>
    obtain ⟨fuel, rfl⟩ := Nat.exists_eq_succ_of_ne_zero (Nat.ne_zero_of_lt h)
    rw [List.flatMap_cons, List.append_assoc, readString_quoteChar,
      ih (Nat.lt_of_succ_lt_succ h)]
    rfl

theorem quoteChar_ne_nil (c : Char) : quoteChar c ≠ [] := by
  unfold quoteChar
  split
  case h_8 => split <;> simp
  all_goals simp

/-- Quoting makes no text shorter, so the quoted text has fuel enough for itself. -/
theorem length_le_flatMap_quoteChar (t : Text) : t.length ≤ (t.flatMap quoteChar).length := by
  induction t with
  | nil => simp
  | cons c t ih =>
    have hpos := List.length_pos_iff.mpr (quoteChar_ne_nil c)
    rw [List.flatMap_cons, List.length_append, List.length_cons]
    omega

theorem quote_append (t rest : Text) :
    quote t ++ rest = '"' :: (t.flatMap quoteChar ++ '"' :: rest) := by
  simp [quote]

/-- The reader has fuel enough for a string, whatever follows it. -/
theorem readString_quoted (t rest : Text) :
    readString ((t.flatMap quoteChar ++ '"' :: rest).length + 1)
      (t.flatMap quoteChar ++ '"' :: rest) = some (some t, rest) := by
  refine readString_flatMap_quoteChar t rest ?_
  have := length_le_flatMap_quoteChar t
  rw [List.length_append]
  omega

theorem le_toNat_hexDigit : ∀ n < 16, 32 ≤ (hexDigit n).toNat := by decide

/-- No control character is left in a quoted one. -/
theorem le_toNat_of_mem_quoteChar {c d : Char} (h : d ∈ quoteChar c) : 32 ≤ d.toNat := by
  unfold quoteChar at h
  split at h
  case h_8 =>
    split at h
    next hc =>
      simp only [List.mem_cons, List.not_mem_nil, or_false] at h
      rcases h with rfl | rfl | rfl | rfl | rfl | rfl
      · decide
      · decide
      · decide
      · decide
      · exact le_toNat_hexDigit _ (by omega)
      · exact le_toNat_hexDigit _ (by omega)
    next hc =>
      rw [List.mem_singleton.mp h]
      omega
  all_goals
    simp only [List.mem_cons, List.not_mem_nil, or_false] at h
    rcases h with rfl | rfl <;> decide

/-- Control characters are only written by their codes. -/
theorem le_toNat_of_mem_quote {t : Text} {d : Char} (h : d ∈ quote t) : 32 ≤ d.toNat := by
  simp only [quote, List.cons_append, List.mem_cons, List.mem_append, List.mem_flatMap,
    List.not_mem_nil, or_false] at h
  rcases h with rfl | ⟨c, -, hc⟩ | rfl
  · decide
  · exact le_toNat_of_mem_quoteChar hc
  · decide

/-! ## Values without numbers -/

mutual

/-- Are there no numbers, and is every string a text? -/
def isPlain : Json → Bool
  | .null | .bool _ | .text _ => true
  | .number _ | .brokenText => false
  | .array items => arePlain items
  | .object fields => arePlainFields fields

/-- Are all the items plain? -/
def arePlain : List Json → Bool
  | [] => true
  | item :: rest => item.isPlain && arePlain rest

/-- Are all the fields plain, names included? -/
def arePlainFields : List (Option Text × Json) → Bool
  | [] => true
  | (name, value) :: rest => name.isSome && value.isPlain && arePlainFields rest

end

theorem skipJson_cons {c : Char} (h : isJsonBlank c = false) (t : Text) :
    skipJson (c :: t) = c :: t := by
  simp [skipJson, h]

/-- A plain value begins with a sign that is no blank and closes nothing. -/
theorem head_compact {json : Json} (h : json.isPlain = true) :
    ∃ c t, json.compact = c :: t ∧ isJsonBlank c = false ∧ c ≠ ']' := by
  cases json with
  | null => exact ⟨_, _, rfl, by decide, by decide⟩
  | bool value => cases value <;> exact ⟨_, _, rfl, by decide, by decide⟩
  | text value => exact ⟨_, _, rfl, by decide, by decide⟩
  | array items => exact ⟨_, _, by rw [compact, List.cons_append], by decide, by decide⟩
  | object fields => exact ⟨_, _, by rw [compact, List.cons_append], by decide, by decide⟩
  | number _ | brokenText => cases h

/-- Items begin with no blank and no bracket, so a list that has some is not taken for an empty one.
-/
theorem head_compactItems {item : Json} (h : item.isPlain = true) (items : List Json) :
    ∃ c t, compactItems (item :: items) = c :: t ∧ isJsonBlank c = false ∧ c ≠ ']' := by
  obtain ⟨c, t, hitem, hc⟩ := head_compact h
  cases items with
  | nil => exact ⟨c, t, by rw [compactItems, hitem], hc⟩
  | cons next items => exact ⟨c, _, by simp only [compactItems, hitem, List.cons_append]; rfl, hc⟩

/-- Fields begin with the quote of a name. -/
theorem head_compactFields (field : Option Text × Json) (fields : List (Option Text × Json)) :
    ∃ t, compactFields (field :: fields) = '"' :: t := by
  obtain ⟨name, value⟩ := field
  cases fields <;> exact ⟨_, by simp only [compactFields, quote_append, List.cons_append]; rfl⟩

section Steps

variable {fuel : Nat} {t behind rest : Text} {item value : Json} {items : List Json}
  {name : Text} {fields : List (Option Text × Json)}

/-- A text in quotes reads as that text. -/
theorem readValue_quote (fuel : Nat) (t rest : Text) :
    readValue (fuel + 1) (quote t ++ rest) = some (.text t, rest) := by
  rw [quote_append, readValue, skipJson_cons (by decide)]
  simp only [readString_quoted]
  rfl

/-- A list is read with its items. -/
theorem readValue_array {c : Char} (hblank : isJsonBlank c = false) (hclose : c ≠ ']')
    (h : readItems fuel (c :: t) = some (items, rest)) :
    readValue (fuel + 1) ('[' :: c :: t) = some (.array items, rest) := by
  rw [readValue, skipJson_cons (by decide)]
  simp [skipJson_cons hblank, hclose, h]

/-- An object is read with its fields. -/
theorem readValue_object (h : readFields fuel ('"' :: t) = some (fields, rest)) :
    readValue (fuel + 1) ('{' :: '"' :: t) = some (.object fields, rest) := by
  rw [readValue, skipJson_cons (by decide)]
  simp [skipJson_cons (c := '"') (by decide), h]

theorem readItems_last (h : readValue fuel t = some (item, ']' :: rest)) :
    readItems (fuel + 1) t = some ([item], rest) := by
  rw [readItems, h]
  simp [skipJson_cons (c := ']') (by decide)]

theorem readItems_more (h : readValue fuel t = some (item, ',' :: behind))
    (hmore : readItems fuel behind = some (items, rest)) :
    readItems (fuel + 1) t = some (item :: items, rest) := by
  rw [readItems, h]
  simp [skipJson_cons (c := ',') (by decide), hmore]

/-- The last field stands in front of the brace. -/
theorem readFields_last (h : readValue fuel t = some (value, '}' :: rest)) :
    readFields (fuel + 1) (quote name ++ ':' :: t) = some ([(some name, value)], rest) := by
  rw [quote_append, readFields, skipJson_cons (by decide)]
  simp only [readString_quoted]
  simp [skipJson_cons (c := ':') (by decide), skipJson_cons (c := '}') (by decide), h]

theorem readFields_more (h : readValue fuel t = some (value, ',' :: behind))
    (hmore : readFields fuel behind = some (fields, rest)) :
    readFields (fuel + 1) (quote name ++ ':' :: t) = some ((some name, value) :: fields, rest) := by
  rw [quote_append, readFields, skipJson_cons (by decide)]
  simp only [readString_quoted]
  simp [skipJson_cons (c := ':') (by decide), skipJson_cons (c := ',') (by decide), h, hmore]

end Steps

-- The induction is on the value; each level of nesting has two signs and takes one step of fuel,
-- so the length of the written form bounds what is needed.
mutual

/-- A plain value that was written reads back, whatever follows it. -/
theorem readValue_compact : ∀ (json : Json) (fuel : Nat) (rest : Text), json.isPlain = true →
    json.compact.length ≤ fuel → readValue fuel (json.compact ++ rest) = some (json, rest)
  | .null, fuel + 1, rest, _, _ => by simp [compact, readValue, skipJson, isJsonBlank]
  | .bool true, fuel + 1, rest, _, _ => by simp [compact, readValue, skipJson, isJsonBlank]
  | .bool false, fuel + 1, rest, _, _ => by simp [compact, readValue, skipJson, isJsonBlank]
  | .text value, fuel + 1, rest, _, _ => readValue_quote fuel value rest
  | .array [], fuel + 1, rest, _, _ => by
    simp [compact, compactItems, readValue, skipJson, isJsonBlank]
  | .array (item :: items), fuel + 1, rest, hplain, hfuel => by
    simp only [compact, List.length_append, List.length_cons, List.length_nil] at hfuel
    have hitems := readItems_compact item items fuel rest hplain (by omega)
    obtain ⟨c, t, hc, hblank, hclose⟩ :=
      head_compactItems (Bool.and_eq_true_iff.mp hplain).1 items
    rw [hc, List.cons_append] at hitems
    simp only [compact, hc, List.append_assoc, List.cons_append, List.nil_append]
    exact readValue_array hblank hclose hitems
  | .object [], fuel + 1, rest, _, _ => by
    simp [compact, compactFields, readValue, skipJson, isJsonBlank]
  | .object (field :: fields), fuel + 1, rest, hplain, hfuel => by
    simp only [compact, List.length_append, List.length_cons, List.length_nil] at hfuel
    have hfields := readFields_compact field fields fuel rest hplain (by omega)
    obtain ⟨t, ht⟩ := head_compactFields field fields
    rw [ht, List.cons_append] at hfields
    simp only [compact, ht, List.append_assoc, List.cons_append, List.nil_append]
    exact readValue_object hfields
  | json, 0, rest, hplain, hfuel => by
    obtain ⟨c, t, hc, -⟩ := head_compact hplain
    simp [hc] at hfuel

/-- The items of a list are read back, by the recursion of the trees themselves. -/
theorem readItems_compact : ∀ (item : Json) (items : List Json) (fuel : Nat) (rest : Text),
    arePlain (item :: items) = true → (compactItems (item :: items)).length < fuel →
    readItems fuel (compactItems (item :: items) ++ ']' :: rest) = some (item :: items, rest)
  | item, [], fuel + 1, rest, hplain, hfuel => by
    simp only [arePlain, Bool.and_true] at hplain
    rw [compactItems] at hfuel ⊢
    exact readItems_last (readValue_compact item fuel (']' :: rest) hplain (by omega))
  | item, next :: items, fuel + 1, rest, hplain, hfuel => by
    obtain ⟨hitem, hmore⟩ := Bool.and_eq_true_iff.mp hplain
    simp only [compactItems, List.length_append, List.length_cons] at hfuel ⊢
    rw [List.append_assoc]
    exact readItems_more (readValue_compact item fuel _ hitem (by omega))
      (readItems_compact next items fuel rest hmore (by omega))

/-- The fields of an object are read back in the same way. -/
theorem readFields_compact : ∀ (field : Option Text × Json) (fields : List (Option Text × Json))
    (fuel : Nat) (rest : Text), arePlainFields (field :: fields) = true →
    (compactFields (field :: fields)).length < fuel →
    readFields fuel (compactFields (field :: fields) ++ '}' :: rest) = some (field :: fields, rest)
  | (none, _), _, _, _, hplain, _ => by simp [arePlainFields] at hplain
  | (some name, value), [], fuel + 1, rest, hplain, hfuel => by
    simp only [arePlainFields, Option.isSome_some, Bool.true_and, Bool.and_true] at hplain
    simp only [compactFields, Option.getD_some, List.length_append, List.length_cons,
      List.append_assoc] at hfuel ⊢
    exact readFields_last (readValue_compact value fuel ('}' :: rest) hplain (by omega))
  | (some name, value), next :: fields, fuel + 1, rest, hplain, hfuel => by
    rw [arePlainFields, Option.isSome_some, Bool.true_and, Bool.and_eq_true] at hplain
    simp only [compactFields, Option.getD_some, List.length_append, List.length_cons,
      List.append_assoc] at hfuel ⊢
    exact readFields_more (readValue_compact value fuel _ hplain.1 (by omega))
      (readFields_compact next fields fuel rest hplain.2 (by omega))

end

/-- The compact form of a plain value is a text of that value. -/
theorem parse_compact {json : Json} (h : json.isPlain = true) :
    parse json.compact = some json := by
  have hread := readValue_compact json (2 * json.compact.length + 2) [] h (by omega)
  rw [List.append_nil] at hread
  rw [parse, hread]
  rfl

end DialogueScript.Json
