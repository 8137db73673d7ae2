import DialogueScript.Proofs.Expr.Soundness
import DialogueScript.Proofs.Expr.Spelling

/-!
# Reading undoes printing

The text of a tree is read as the tree, unless its nesting is too deep, which is then the fault.
Conversely, a tree that was read from some text is one that texts stand for; its tokens are among
those of the text, and are read as the tree again (`parse_text`).
-/

namespace DialogueScript.Expr

section Tokens

variable {doubles : Bool} {tree : Tree} {ts : List Lexeme}

/-- The tokens of a tree are read as that tree at any depth that leaves its nesting. -/
theorem readAt_tokens (h : tree.isGrammatical doubles = true)
    (htokens : ts.map (·.token) = tree.tokens ++ [.finish]) {depth : Nat}
    (hdepth : depth ≤ maxNesting) :
    ∃ finish : Lexeme, finish.token = .finish ∧
      readAt 0 depth ts = guarded (depth + tree.nesting) (.ok (tree, [finish])) := by
  obtain ⟨front, last, rfl, hfront, hlast⟩ := List.map_eq_append_iff.mp htokens
  obtain ⟨finish, rfl, hfinish⟩ := List.map_eq_singleton_iff.mp hlast
  have hplace : 0 ≤ tree.level := Nat.zero_le _
  have hstops : Stops 0 [finish] := by simp [stops_cons, hfinish, Token.strength?]
  have hread := (everywhere_of_isGrammatical h).reads 0 (Nat.zero_le _) depth front [finish]
    hdepth (hfront.trans (tokensAt_of_le hplace).symm) hstops
  rw [nestingAt_of_le hplace] at hread
  exact ⟨finish, hfinish, hread⟩

theorem treeOfTokens_tokens (h : tree.isGrammatical doubles = true)
    (htokens : ts.map (·.token) = tree.tokens ++ [.finish]) :
    treeOfTokens ts = if tree.nesting ≤ maxNesting then .ok tree else .error .tooDeep := by
  have hreads := (everywhere_of_isGrammatical h).reads 0 (Nat.zero_le 8)
  unfold Reads at hreads
  rw [tokensAt_of_le (Nat.zero_le _), nestingAt_of_le (Nat.zero_le _)] at hreads
  exact hreads.treeOfTokens htokens (by simp)

end Tokens

/-- The text of a tree is read as that tree, as deep as the nesting may be. -/
theorem parse_text_of_isGrammatical {tree : Tree} (h : tree.isGrammatical false = true) :
    parse tree.text = if tree.nesting ≤ maxNesting then .ok tree else .error .tooDeep := by
  obtain ⟨ts, hts, htokens, -⟩ := tokenize_text h
  rw [parse, hts]
  exact treeOfTokens_tokens h htokens

/-- A tree that was read is one that texts stand for, and needs no tokens but those of the text. -/
theorem sound_of_parse {t : Text} {tree : Tree} (h : parse t = .ok tree) :
    tree.isGrammatical true = true ∧
      ∃ ts, tokenize t = .ok ts ∧ List.Sublist tree.tokens (ts.map (·.token)) := by
  obtain ⟨ts, hts, htree⟩ := bind_eq_ok h
  obtain ⟨rest, hderives, -⟩ := derives_of_treeOfTokens htree
  obtain ⟨hgrammatical, front, hfront, htokens⟩ :=
    printed_of_derives hderives (lexed_tokensFrom hts)
  rw [tokensAt_of_le (Nat.zero_le _)] at htokens
  refine ⟨hgrammatical, ts, hts, ?_⟩
  rw [hfront, List.map_append]
  exact htokens.trans (List.sublist_append_left _ _)

/-- **Reading undoes printing**, as deep as the nesting may be; and every tree that is read can be
printed, with no tokens but those that were read, and is read again from them. -/
theorem parse_text :
    (∀ tree : Tree, tree.isGrammatical false = true →
      parse tree.text = if tree.nesting ≤ maxNesting then .ok tree else .error .tooDeep) ∧
    ∀ (t : Text) (tree : Tree), parse t = .ok tree →
      tree.isGrammatical true = true ∧
      (∃ ts, tokenize t = .ok ts ∧ List.Sublist tree.tokens (ts.map (·.token))) ∧
      (tree.nesting ≤ maxNesting →
        (∀ ts : List Lexeme, ts.map (·.token) = tree.tokens ++ [.finish] →
          treeOfTokens ts = .ok tree) ∧
        (tree.isGrammatical false = true → parse tree.text = .ok tree)) := by
  refine ⟨fun tree h => parse_text_of_isGrammatical h, fun t tree h => ?_⟩
  obtain ⟨hgrammatical, hsublist⟩ := sound_of_parse h
  refine ⟨hgrammatical, hsublist, fun hnesting => ⟨fun ts htokens => ?_, fun hwritten => ?_⟩⟩
  · rw [treeOfTokens_tokens hgrammatical htokens, if_pos hnesting]
  · rw [parse_text_of_isGrammatical hwritten, if_pos hnesting]

/-- A product with a power of signed operands: `(1 - 2) * (-3) ** -4`. -/
def signedPower : Tree :=
  .binary .mul (.binary .sub (.int 1) (.int 2))
    (.binary .pow (.sign .minus (.int 3)) (.sign .minus (.int 4)))

/-- It is read from a text with parentheses to spare, and from its own. -/
theorem parse_text_signedPower :
    parse "((1) - 2)*(-3)**-4".toList = .ok signedPower ∧
    (∃ ts, tokenize "((1) - 2)*(-3)**-4".toList = .ok ts ∧
      List.Sublist signedPower.tokens (ts.map (·.token))) ∧
    signedPower.isGrammatical false = true ∧ signedPower.nesting ≤ maxNesting ∧
    parse signedPower.text = .ok signedPower := by
  have hread : parse "((1) - 2)*(-3)**-4".toList = .ok signedPower := by
    with_unfolding_all rfl
  have hgrammatical : signedPower.isGrammatical false = true := by decide
  have hnesting : signedPower.nesting ≤ maxNesting := by decide
  obtain ⟨-, htokens, -⟩ := parse_text.2 _ _ hread
  exact ⟨hread, htokens, hgrammatical, hnesting,
    (parse_text.1 _ hgrammatical).trans (if_pos hnesting)⟩

end DialogueScript.Expr
