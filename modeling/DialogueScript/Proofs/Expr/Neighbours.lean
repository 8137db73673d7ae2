import Mathlib.Data.List.Chain
import DialogueScript.Proofs.Expr.Soundness

/-!
# Neighbours in expressions

Which tokens may stand side by side (`Follows`): behind a token that ends an expression there is one
that goes on with it, and behind a token that leads to an expression there is one that begins it.
The tokens of whatever the grammar derives are such (`joined_of_derives`).
-/

namespace DialogueScript.Expr

/-- Can an expression begin with the token? -/
def Token.begins (token : Token) : Bool :=
  (leaf? token).isSome || token == .openParen || (sign? token).isSome || token == .not

/-- Can an expression end with the token? -/
def Token.ends (token : Token) : Bool := (leaf? token).isSome || token == .closeParen

/-- Can the token stand behind an expression? -/
def Token.goesOn (token : Token) : Bool :=
  token.strength?.isSome || token == .closeParen || token == .finish

/-- Does an expression begin behind the token? -/
def Token.leads (token : Token) : Bool :=
  token.strength?.isSome || token == .openParen || token == .not

/-- The second token may stand behind the first. -/
def Follows (first second : Lexeme) : Prop :=
  (first.token.ends = true ∧ second.token.goesOn = true) ∨
    (first.token.leads = true ∧ second.token.begins = true)

/-- The tokens of a part of an expression in front of the rest: one that begins an expression comes
first, and each may stand behind the one before it if something that goes on comes behind them. -/
structure Joined (ts rest : List Lexeme) : Prop where
  suffix : rest <:+ ts
  head : ∀ lexeme ∈ ts.head?, lexeme.token.begins = true
  chain : (∀ lexeme ∈ rest.head?, lexeme.token.goesOn = true) → rest.IsChain Follows →
    ts.IsChain Follows

namespace Joined

variable {lexeme : Lexeme} {ts middle rest : List Lexeme}

/-- A part behind a token that leads to it. -/
theorem behind (h : Joined ts rest) (hleads : lexeme.token.leads = true)
    (hgoesOn : ∀ lexeme ∈ rest.head?, lexeme.token.goesOn = true) (hchain : rest.IsChain Follows) :
    (lexeme :: ts).IsChain Follows :=
  List.isChain_cons.mpr ⟨fun next hnext => .inr ⟨hleads, h.head next hnext⟩,
    h.chain hgoesOn hchain⟩

/-- A token in front of a part. -/
theorem cons (h : Joined ts rest) (hbegins : lexeme.token.begins = true)
    (hleads : lexeme.token.leads = true) : Joined (lexeme :: ts) rest where
  suffix := h.suffix.trans (List.suffix_cons lexeme ts)
  head := by simpa using hbegins
  chain := h.behind hleads

/-- Two parts with an operator between them. -/
theorem link (hfront : Joined ts (lexeme :: middle)) (h : Joined middle rest)
    (hstrength : lexeme.token.strength?.isSome = true) : Joined ts rest where
  suffix := h.suffix.trans ((List.suffix_cons lexeme middle).trans hfront.suffix)
  head := hfront.head
  chain hrest hchain := hfront.chain (by simp [Token.goesOn, hstrength])
    (h.behind (by simp [Token.leads, hstrength]) hrest hchain)

/-- A token that ends an expression, in front of what goes on. -/
theorem isChain_cons (hends : lexeme.token.ends = true)
    (hgoesOn : ∀ lexeme ∈ rest.head?, lexeme.token.goesOn = true) (hchain : rest.IsChain Follows) :
    (lexeme :: rest).IsChain Follows :=
  List.isChain_cons.mpr ⟨fun next hnext => .inl ⟨hends, hgoesOn next hnext⟩, hchain⟩

end Joined

theorem joined_of_derives {part : Part} {depth : Nat} {ts rest : List Lexeme}
    (h : Derives part depth ts rest) : Joined ts rest := by
  induction h with
  | @leaf depth lexeme leaf rest hleaf =>
    exact
      { suffix := List.suffix_cons lexeme rest
        head := by simp [Token.begins, hleaf]
        chain := Joined.isChain_cons (by simp [Token.ends, hleaf]) }
  | @parens depth opening closing tree ts rest hopening hclosing _ _ ih =>
    have hinner : Joined (opening :: ts) (closing :: rest) :=
      ih.cons (by rw [hopening]; rfl) (by rw [hopening]; rfl)
    exact
      { suffix := (List.suffix_cons ..).trans hinner.suffix
        head := hinner.head
        chain := fun hrest hchain => hinner.chain (by simp [hclosing, Token.goesOn])
          (Joined.isChain_cons (by simp [hclosing, Token.ends]) hrest hchain) }
  -- rules that take no token of their own
  | looser _ ih | chainFirst _ ih | chain _ ih | operandsFirst _ ih | logical _ ih
    | linksFirst _ ih | compare _ ih => exact ih
  | power htoken _ _ _ ihfront ih => exact ihfront.link ih (by rw [htoken]; rfl)
  | chainNext hop _ _ _ ihfront ih =>
    obtain ⟨hlinks, htoken⟩ := links_of_op? hop
    exact ihfront.link ih (by rw [htoken, hlinks.strength]; rfl)
  | @operandsNext op _ _ _ _ _ _ _ htoken _ _ ihfront ih =>
    exact ihfront.link ih (by rw [htoken, strength_boolOp]; rfl)
  | linksNext hop _ _ ihfront ih =>
    exact ihfront.link ih (by rw [token_of_compareOp? hop, strength_compareOp]; rfl)
  | @sign _ _ op _ _ _ hop _ _ ih =>
    exact ih.cons (by rw [token_of_sign? hop]; cases op <;> rfl)
      (by rw [token_of_sign? hop]; cases op <;> rfl)
  | not htoken _ _ ih => exact ih.cons (by rw [htoken]; rfl) (by rw [htoken]; rfl)

end DialogueScript.Expr
