import DialogueScript.Alphabet.Classes
import DialogueScript.Text.Basic

/-!
# Escapes

Backslash escapes of display texts. An escape that is unknown, cut off or stands for no character
is kept as it is written.

Main statement: `decode_of_not_mem` (a text without backslash is unchanged).
-/

namespace DialogueScript.Text.Escape

/-- The character of an escape of one letter or sign. -/
def simple? : Char → Option Char
  | 'n' => some '\n'
  | 't' => some '\t'
  | 'r' => some '\r'
  | '\\' => some '\\'
  | '\'' => some '\''
  | '"' => some '"'
  | _ => none

/-- How many hexadecimal digits follow the letter of a numeric escape. -/
def hexWidth? : Char → Option Nat
  | 'x' => some 2
  | 'u' => some 4
  | 'U' => some 8
  | _ => none

/-- The meaning of a numeric escape with all its digits. -/
def hexMeaning (letter : Char) (digits : Text) : Text :=
  match Alphabet.charOf? (Alphabet.hexNumber digits) with
  | some c => [c]
  | none => '\\' :: letter :: digits

/-- Replaces every escape by its meaning. -/
def decode : Text → Text
  | [] => []
  | c :: rest =>
    if c = '\\' then
      match rest with
      | [] => ['\\']
      | letter :: tail =>
        match simple? letter with
        | some meaning => meaning :: decode tail
        | none =>
          match hexWidth? letter with
          | none => '\\' :: letter :: decode tail
          | some width =>
            if (tail.take width).length = width ∧ (tail.take width).all Alphabet.isHexDigit then
              hexMeaning letter (tail.take width) ++ decode (tail.drop width)
            else '\\' :: letter :: decode tail
    else c :: decode rest
termination_by t => t.length
decreasing_by
  all_goals
    simp only [List.length_cons, List.length_drop]
    omega

theorem decode_of_not_mem {t : Text} (h : '\\' ∉ t) : decode t = t := by
  induction t with
  | nil => simp [decode]
  | cons c rest ih =>
    simp only [List.mem_cons, not_or] at h
    rw [decode.eq_def]
    simp [Ne.symm h.1, ih h.2]

/-- With its backslashes doubled, every text is the meaning of another one. -/
theorem exists_decode (t : Text) : ∃ raw, decode raw = t := by
  induction t with
  | nil => exact ⟨[], decode_of_not_mem (by simp)⟩
  | cons c rest ih =>
    obtain ⟨raw, hraw⟩ := ih
    by_cases hc : c = '\\'
    · refine ⟨'\\' :: '\\' :: raw, ?_⟩
      rw [decode.eq_def]
      simp [simple?, hraw, hc]
    · refine ⟨c :: raw, ?_⟩
      rw [decode.eq_def]
      simp [hraw, hc]

end DialogueScript.Text.Escape
