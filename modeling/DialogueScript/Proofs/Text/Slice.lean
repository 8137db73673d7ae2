import DialogueScript.Text.Basic

/-!
# Slices

A text is cut at an offset that counts bytes of UTF-8. There is nothing to cut at an offset inside
a character or behind the end.

Main statement: `cut?_eq_some_iff` (the two parts make up the text, and the first one has as many
bytes as the offset says).
-/

namespace DialogueScript.Text

/-- The text in front of an offset and the text behind it. -/
def cut? : Nat → Text → Option (Text × Text)
  | 0, t => some ([], t)
  | _ + 1, [] => none
  | n + 1, c :: rest =>
    if c.utf8Size ≤ n + 1 then
      (cut? (n + 1 - c.utf8Size) rest).map fun parts => (c :: parts.1, parts.2)
    else none

theorem cut?_zero (t : Text) : cut? 0 t = some ([], t) := by
  cases t <;> rfl

/-- A cut behind a part that has the bytes of the offset. -/
theorem cut?_append (before after : Text) : cut? (bytes before) (before ++ after)
    = some (before, after) := by
  induction before with
  | nil => exact cut?_zero after
  | cons c before ih =>
    have hsize : 0 < c.utf8Size := c.utf8Size_pos
    obtain ⟨n, hn⟩ : ∃ n, bytes (c :: before) = n + 1 :=
      Nat.exists_eq_succ_of_ne_zero (by rw [bytes_cons]; omega)
    have hrest : n + 1 - c.utf8Size = bytes before := by
      rw [bytes_cons] at hn
      omega
    rw [hn, List.cons_append, cut?, if_pos (by rw [bytes_cons] at hn; omega), hrest, ih]
    rfl

/-- A cut falls on the end of a character, and its parts make up the text. -/
theorem cut?_eq_some_iff {t before after : Text} {n : Nat} :
    cut? n t = some (before, after) ↔ t = before ++ after ∧ bytes before = n := by
  constructor
  · intro h
    induction t generalizing n before with
    | nil =>
      cases n with
      | zero =>
        obtain ⟨rfl, rfl⟩ := Prod.mk.inj (Option.some.inj h)
        exact ⟨rfl, rfl⟩
      | succ n => cases h
    | cons c rest ih =>
      cases n with
      | zero =>
        obtain ⟨rfl, rfl⟩ := Prod.mk.inj (Option.some.inj h)
        exact ⟨rfl, rfl⟩
      | succ n =>
        rw [cut?] at h
        split at h
        next hsize =>
          obtain ⟨⟨front, behind⟩, hcut, hparts⟩ := Option.map_eq_some_iff.mp h
          obtain ⟨rfl, rfl⟩ := Prod.mk.inj hparts
          obtain ⟨rfl, hbytes⟩ := ih hcut
          refine ⟨rfl, ?_⟩
          show c.utf8Size + bytes front = n + 1
          omega
        next => cases h
  · rintro ⟨rfl, rfl⟩
    exact cut?_append before after

/-- The bytes in front of the first place where a character stands. -/
def offsetOf? (c : Char) : Text → Option Nat
  | [] => none
  | d :: rest => if d = c then some 0 else (offsetOf? c rest).map (d.utf8Size + ·)

/-- The offset of a character is what is in front of its first occurrence. -/
theorem offsetOf?_append {c : Char} {before : Text} (h : c ∉ before) (after : Text) :
    offsetOf? c (before ++ c :: after) = some (bytes before) := by
  induction before with
  | nil => exact if_pos rfl
  | cons d before ih =>
    rw [List.mem_cons, not_or] at h
    rw [List.cons_append, offsetOf?, if_neg (Ne.symm h.1), ih h.2]
    rfl

end DialogueScript.Text
