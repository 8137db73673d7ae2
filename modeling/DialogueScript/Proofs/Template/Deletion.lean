import DialogueScript.Proofs.List
import DialogueScript.Proofs.Template.BottomUp

/-!
# Choosing only deletes

A choice is replaced by one of its options, which stands inside it, so resolving the choices of a
text takes characters away and adds none. No choice is left at the end, and a brace without a
partner stays (`choices_only_delete`).

A brace has a partner if reading on from it, towards the inside, comes to the brace that closes it
(`meets`). One round of the loop takes a pair and what is not chosen of its inside. Neither brace of
the pair is without a partner (`not_lone_opening`, `not_lone_closing`), and the braces around it
that are stay so (`Lone.shrink_behind`, `Lone.shrink_before`). The run follows round by round
(`Rewrites.deletes`).
-/

namespace DialogueScript.Template

/-! ## Partners -/

/-- Does a brace meet its partner in the text that it looks at? Its own kind opens another pair,
which is closed first; `depth` such pairs are open. -/
def meets (own partner : Char) : Nat → Text → Bool
  | _, [] => false
  | depth, c :: rest =>
    if c = own then meets own partner (depth + 1) rest
    else if c = partner then depth == 0 || meets own partner (depth - 1) rest
    else meets own partner depth rest

/-- A brace without a partner, with the text in front of it and behind it: an opening one looks for
its partner behind, a closing one in front. -/
inductive Lone : Text → Char → Text → Prop
  | opening {before after : Text} (h : meets '{' '}' 0 after = false) : Lone before '{' after
  | closing {before after : Text} (h : meets '}' '{' 0 before.reverse = false) :
    Lone before '}' after

section Meets

variable {own partner : Char}

/-- Other characters are passed. -/
theorem meets_plain {plain : Text} (h : ∀ c ∈ plain, c ≠ own ∧ c ≠ partner) (depth : Nat)
    (rest : Text) :
    meets own partner depth (plain ++ rest) = meets own partner depth rest := by
  induction plain with
  | nil => rfl
  | cons c plain ih =>
    obtain ⟨⟨hown, hpartner⟩, hplain⟩ := List.forall_mem_cons.mp h
    rw [List.cons_append, meets, if_neg hown, if_neg hpartner, ih hplain]

/-- The next partner is met behind other characters. -/
theorem meets_partner (hne : own ≠ partner) {plain : Text}
    (h : ∀ c ∈ plain, c ≠ own ∧ c ≠ partner) (rest : Text) :
    meets own partner 0 (plain ++ partner :: rest) = true := by
  rw [meets_plain h, meets, if_neg hne.symm, if_pos rfl]
  rfl

/-- A pair that is passed on the way does not count. -/
theorem meets_pair (hne : own ≠ partner) {plain : Text}
    (h : ∀ c ∈ plain, c ≠ own ∧ c ≠ partner) (depth : Nat) (rest : Text) :
    meets own partner depth (own :: (plain ++ partner :: rest)) = meets own partner depth rest := by
  rw [meets, if_pos rfl, meets_plain h, meets, if_neg hne.symm, if_pos rfl]
  rfl

/-- What is met depends on what is behind a front only by what is met from there. -/
theorem meets_append_congr {rest other : Text}
    (h : ∀ depth, meets own partner depth rest = meets own partner depth other) (front : Text) :
    ∀ depth, meets own partner depth (front ++ rest)
      = meets own partner depth (front ++ other) := by
  induction front with
  | nil => exact h
  | cons c front ih =>
    intro depth
    rw [List.cons_append, List.cons_append, meets, meets, ih, ih, ih]

/-- With something plain in the place of a pair the same partner is met. -/
theorem meets_shrink (hne : own ≠ partner) {inner plain : Text}
    (hinner : ∀ c ∈ inner, c ≠ own ∧ c ≠ partner) (hplain : ∀ c ∈ plain, c ≠ own ∧ c ≠ partner)
    (front rest : Text) (depth : Nat) :
    meets own partner depth (front ++ own :: (inner ++ partner :: rest))
      = meets own partner depth (front ++ (plain ++ rest)) :=
  meets_append_congr (fun depth => by rw [meets_pair hne hinner, meets_plain hplain]) front depth

end Meets

section Lone

variable {before after : Text} {c : Char}

/-- A plain text has neither of the two braces. -/
theorem IsPlain.apart {t : Text} (h : IsPlain t) : ∀ c ∈ t, c ≠ '{' ∧ c ≠ '}' :=
  fun c hc => by simpa [isBrace] using h c hc

theorem IsPlain.apart_reverse {t : Text} (h : IsPlain t) : ∀ c ∈ t.reverse, c ≠ '}' ∧ c ≠ '{' :=
  fun c hc => (h.apart c (List.mem_reverse.mp hc)).symm

theorem Lone.isBrace (h : Lone before c after) : isBrace c = true := by
  cases h <;> rfl

/-- An opening brace has its partner behind a plain inside. -/
theorem not_lone_opening {inner : Text} (hinner : IsPlain inner) :
    ¬ Lone before '{' (inner ++ '}' :: after) := by
  rintro ⟨h⟩
  rw [meets_partner (by decide) hinner.apart] at h
  cases h

/-- A closing brace behind a plain text and an opening one is not alone. -/
theorem not_lone_closing {inner : Text} (hinner : IsPlain inner) :
    ¬ Lone (before ++ '{' :: inner) '}' after := by
  intro h
  cases h with
  | closing h =>
    rw [List.reverse_append, List.reverse_cons, List.append_assoc, List.singleton_append,
      meets_partner (by decide) hinner.apart_reverse] at h
    cases h

/-- With something plain in the place of a pair, a brace in front of it stays without a partner. -/
theorem Lone.shrink_behind {inner plain front rest : Text} (hinner : IsPlain inner)
    (hplain : IsPlain plain) (h : Lone before c (front ++ '{' :: (inner ++ '}' :: rest))) :
    Lone before c (front ++ (plain ++ rest)) := by
  cases h with
  | opening h =>
    rw [meets_shrink (by decide) hinner.apart hplain.apart] at h
    exact .opening h
  | closing h => exact .closing h

/-- A brace behind the pair stays without a partner as well. -/
theorem Lone.shrink_before {inner plain front rest : Text} (hinner : IsPlain inner)
    (hplain : IsPlain plain) (h : Lone (rest ++ '{' :: (inner ++ '}' :: front)) c after) :
    Lone (rest ++ (plain ++ front)) c after := by
  cases h with
  | opening h => exact .opening h
  | closing h =>
    have hturned : (rest ++ '{' :: (inner ++ '}' :: front)).reverse
        = front.reverse ++ '}' :: (inner.reverse ++ '{' :: rest.reverse) := by simp
    rw [hturned, meets_shrink (by decide) hinner.apart_reverse hplain.apart_reverse] at h
    refine .closing ?_
    simpa using h

end Lone

/-! ## Characters with their places -/

/-- A text whose characters carry numbers, such as their places in another text. -/
abbrev Placed := List (Char × Nat)

/-- The text of placed characters. -/
def Placed.text (placed : Placed) : Text := placed.map (·.1)

@[simp] theorem Placed.text_append (front back : Placed) :
    Placed.text (front ++ back) = front.text ++ back.text := List.map_append

@[simp] theorem Placed.text_cons (m : Char × Nat) (rest : Placed) :
    Placed.text (m :: rest) = m.1 :: rest.text := rfl

/-- A placed character is a brace without a partner. -/
def Placed.IsLone (placed : Placed) (m : Char × Nat) : Prop :=
  ∃ before after : Placed, placed = before ++ m :: after ∧ Lone before.text m.1 after.text

/-- Characters are taken away, but no brace without a partner, and none of these gets one. -/
structure Deletes (whole left : Placed) : Prop where
  sublist : left.Sublist whole
  lone : ∀ m, whole.IsLone m → left.IsLone m

section Deletes

theorem Deletes.refl (whole : Placed) : Deletes whole whole := ⟨.refl _, fun _ h => h⟩

/-- What is left of what is left is left of the whole, and lone braces stay. -/
theorem Deletes.trans {whole middle left : Placed} (h : Deletes whole middle)
    (h' : Deletes middle left) : Deletes whole left :=
  ⟨h'.sublist.trans h.sublist, fun m hm => h'.lone m (h.lone m hm)⟩

/-- One round: a pair gives way to a part of its inside. -/
theorem deletes_pair {front inner back kept : Placed} {i j : Nat} (hinner : IsPlain inner.text)
    (hkept : kept.Sublist inner) :
    Deletes (front ++ ('{', i) :: (inner ++ ('}', j) :: back)) (front ++ (kept ++ back)) := by
  have hplain : IsPlain kept.text := hinner.of_subset (hkept.map _).subset
  refine ⟨.append (.refl _) (.cons _ (hkept.append (.cons _ (.refl _)))), ?_⟩
  rintro m ⟨before, after, hwhole, hlone⟩
  rcases append_eq_append_cons hwhole with ⟨mid, rfl, rfl⟩ | ⟨mid, hrest, rfl⟩
  · -- in front of the pair
    simp only [Placed.text_append, Placed.text_cons] at hlone
    refine ⟨before, mid ++ (kept ++ back), by simp, ?_⟩
    simpa using hlone.shrink_behind hinner hplain
  · cases mid with
    | nil =>
      obtain ⟨rfl, rfl⟩ := List.cons.inj hrest
      simp only [Placed.text_append, Placed.text_cons] at hlone
      exact absurd hlone (not_lone_opening hinner)
    | cons first mid =>
      obtain ⟨rfl, hinside⟩ := List.cons.inj hrest
      rcases append_eq_append_cons hinside with ⟨mid', rfl, rfl⟩ | ⟨mid', hback, rfl⟩
      · -- in the inside
        have hm := hinner m.1 (by simp)
        rw [hlone.isBrace] at hm
        cases hm
      · cases mid' with
        | nil =>
          obtain ⟨rfl, rfl⟩ := List.cons.inj hback
          simp only [List.append_nil, Placed.text_append, Placed.text_cons] at hlone
          exact absurd hlone (not_lone_closing hinner)
        | cons last mid' =>
          -- behind the pair
          obtain ⟨rfl, rfl⟩ := List.cons.inj hback
          simp only [Placed.text_append, Placed.text_cons] at hlone
          refine ⟨front ++ (kept ++ mid'), after, by simp, ?_⟩
          simpa using hlone.shrink_before hinner hplain

end Deletes

/-! ## The run -/

section Run

variable {wanted : Text → Bool} {replace : Text → Text} {t result : Text} {replaced : List Text}

/-- The loop ends with nothing left to replace. -/
theorem Rewrites.findSpan_eq_none (h : Rewrites wanted replace t replaced result) :
    findSpan wanted result = none := by
  induction h with
  | stop hnone => exact hnone
  | step _ _ ih => exact ih

/-- A loop that replaces insides by parts of them only deletes. -/
theorem Rewrites.deletes (h : Rewrites wanted replace t replaced result)
    (hreplace : ∀ inner, (replace inner).Sublist inner) {whole : Placed} (hwhole : whole.text = t) :
    ∃ left : Placed, Deletes whole left ∧ left.text = result := by
  induction h generalizing whole with
  | stop _ => exact ⟨whole, .refl whole, hwhole⟩
  | @step t result span replaced hfound _ ih =>
    obtain ⟨ht, hwanted, -⟩ := findSpan_eq_some hfound
    rw [ht] at hwhole
    obtain ⟨front, paired, rfl, hfront, hpaired⟩ := List.map_eq_append_iff.mp hwhole
    obtain ⟨⟨_, i⟩, inside, rfl, rfl, hinside⟩ := List.map_eq_cons_iff.mp hpaired
    obtain ⟨inner, closed, rfl, hinner, hclosed⟩ := List.map_eq_append_iff.mp hinside
    obtain ⟨⟨_, j⟩, back, rfl, rfl, hback⟩ := List.map_eq_cons_iff.mp hclosed
    -- what replaces the inside stands in it, at places of its own
    have hpart := hreplace span.inner
    rw [← hinner] at hpart
    obtain ⟨kept, hkept, hchosen⟩ := List.sublist_map_iff.mp hpart
    have hround : Placed.text (front ++ (kept ++ back))
        = span.before ++ replace span.inner ++ span.after := by
      rw [← hinner, hchosen, ← hfront, ← hback, Placed.text, List.map_append, List.map_append,
        List.append_assoc]
    obtain ⟨left, hdeletes, hleft⟩ := ih hround
    have hplain : IsPlain (Placed.text inner) := by
      rw [Placed.text, hinner]
      exact isPlain_of_isReplaceable hwanted
    exact ⟨left, (deletes_pair hplain hkept).trans hdeletes, hleft⟩

end Run

/-- Choosing is replacing bottom-up. -/
theorem bottomUp_resolveChoices (t : Text) :
    BottomUp isChoice (fun inner => (chooseOption inner).1) choiceProblem? t
      (resolveChoices t) := by
  rw [resolveChoices, funext chooseOption_eq]
  exact bottomUp_resolve (fun inner h =>
    (isPlain_of_isReplaceable h).of_subset (chooseOption_isInfix inner).subset) t

/-- **Resolving choices only deletes**: what is left is the text with characters taken away, which
keep their order; every brace that has no partner in the text is left; and of what is left no plain
inside of braces holds an at sign. -/
theorem choices_only_delete (t : Text) :
    (resolveChoices t).1.Sublist t ∧
    (∃ left : List (Char × Nat), left.Sublist t.zipIdx ∧ left.map (·.1) = (resolveChoices t).1 ∧
      ∀ before c after, t = before ++ c :: after → Lone before c after →
        (c, before.length) ∈ left) ∧
    ∀ before inner after, (resolveChoices t).1 = before ++ '{' :: (inner ++ '}' :: after) →
      IsPlain inner → '@' ∉ inner := by
  have hresolve := bottomUp_resolveChoices t
  have hends := hresolve.ends
  rw [← hresolve.text] at hends
  have hplaces : Placed.text t.zipIdx = t := List.zipIdx_map_fst 0 t
  obtain ⟨left, hdeletes, hleft⟩ :=
    hends.deletes (fun inner => (chooseOption_isInfix inner).sublist) hplaces
  refine ⟨?_, ⟨left, hdeletes.sublist, hleft, ?_⟩, ?_⟩
  · have hsublist := hdeletes.sublist.map (·.1)
    rwa [show left.map (·.1) = _ from hleft, show t.zipIdx.map (·.1) = t from hplaces] at hsublist
  · -- the brace is left as the one at its place, not only as one of its kind
    rintro before c after rfl hlone
    have hplaced : Placed.IsLone (before ++ c :: after).zipIdx (c, before.length) :=
      ⟨before.zipIdx, after.zipIdx (before.length + 1), by simp [List.zipIdx_append],
        by simpa [Placed.text] using hlone⟩
    obtain ⟨front, back, rfl, -⟩ := hdeletes.lone _ hplaced
    exact List.mem_append_right _ (List.mem_cons_self ..)
  · intro before inner after hresult hplain hmem
    have hwanted : isReplaceable isChoice inner = true := by
      simpa [isReplaceable, isChoice, hmem, IsPlain] using hplain
    have hnone := hends.findSpan_eq_none
    rw [hresult] at hnone
    exact findSpan_append_ne_none hwanted before hnone

/-- Two choices, one in the other, between braces without partners. -/
theorem choices_only_delete_strays :
    let t : Text := "\x7d\x7b1==1@a\x7b0@b|c\x7d|d\x7d\x7bn\x7d\x7bx@".toList
    Lone [] '}' (t.drop 1) ∧ Lone (t.take 21) '{' ['x', '@'] ∧
    (resolveChoices t).1 = "\x7dab\x7bn\x7d\x7bx@".toList ∧ (resolveChoices t).1.Sublist t ∧
    (∃ left : List (Char × Nat), left.Sublist t.zipIdx ∧ left.map (·.1) = (resolveChoices t).1 ∧
      ('}', 0) ∈ left ∧ ('{', 21) ∈ left) ∧
    '@' ∉ ['n'] := by
  intro t
  have hclosing : Lone [] '}' (t.drop 1) := .closing (by decide)
  have hopening : Lone (t.take 21) '{' ['x', '@'] := .opening (by decide)
  have hresult : (resolveChoices t).1 = "\x7dab\x7bn\x7d\x7bx@".toList := by decide +kernel
  obtain ⟨hsublist, ⟨left, hleft, htext, hlone⟩, hsettled⟩ := choices_only_delete t
  exact ⟨hclosing, hopening, hresult, hsublist,
    ⟨left, hleft, htext, hlone [] '}' _ rfl hclosing, hlone (t.take 21) '{' _ rfl hopening⟩,
    hsettled "\x7dab".toList ['n'] "\x7bx@".toList hresult (by simp [isBrace])⟩

end DialogueScript.Template
