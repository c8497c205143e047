import Mathlib.Data.List.Basic

/-! Text between quotes. A doubled quote stands for the quote, and an escape symbol takes the
symbol behind it along; which of the two a quoting allows is part of it. -/
namespace Quoted

variable {Symbol : Type}

/-- The quote, and the escape symbol if there is one. -/
structure Quoting (Symbol : Type) where
  quote : Symbol
  escape : Option Symbol

/-- What one step of a scan over quoted text takes. -/
inductive Piece (Symbol : Type) where
  | plain (symbol : Symbol)
  | doubled
  | escaped (symbol : Symbol)
  deriving DecidableEq, Repr

namespace Piece

/-- The symbols of a piece. -/
def spelling (quoting : Quoting Symbol) : Piece Symbol → List Symbol
  | plain symbol => [symbol]
  | doubled => [quoting.quote, quoting.quote]
  | escaped symbol => quoting.escape.toList ++ [symbol]

/-- The pieces a scan can take. -/
def Valid (quoting : Quoting Symbol) : Piece Symbol → Prop
  | plain symbol => symbol ≠ quoting.quote ∧ quoting.escape ≠ some symbol
  | doubled => True
  | escaped _ => ∃ escape, quoting.escape = some escape ∧ escape ≠ quoting.quote

end Piece

def spell (quoting : Quoting Symbol) (pieces : List (Piece Symbol)) : List Symbol :=
  pieces.flatMap (·.spelling quoting)

@[simp] theorem spell_nil (quoting : Quoting Symbol) : spell quoting [] = [] := rfl

@[simp] theorem spell_cons (quoting : Quoting Symbol) (piece : Piece Symbol)
    (pieces : List (Piece Symbol)) :
    spell quoting (piece :: pieces) = piece.spelling quoting ++ spell quoting pieces :=
  List.flatMap_cons

/-- A text of which a scan takes `pieces`, then the quote that closes them. -/
structure Scans (quoting : Quoting Symbol) (text : List Symbol) (pieces : List (Piece Symbol))
    (rest : List Symbol) : Prop where
  text_eq : text = spell quoting pieces ++ quoting.quote :: rest
  valid : ∀ piece ∈ pieces, piece.Valid quoting
  closed : rest.head? ≠ some quoting.quote

variable {quoting : Quoting Symbol} {text rest : List Symbol} {pieces : List (Piece Symbol)}

theorem Scans.nil (closed : rest.head? ≠ some quoting.quote) :
    Scans quoting (quoting.quote :: rest) [] rest :=
  ⟨rfl, by simp, closed⟩

private theorem Scans.cons (piece : Piece Symbol) (valid : piece.Valid quoting)
    (scans : Scans quoting text pieces rest) :
    Scans quoting (piece.spelling quoting ++ text) (piece :: pieces) rest where
  text_eq := by rw [scans.text_eq, spell_cons, List.append_assoc]
  valid := List.forall_mem_cons.2 ⟨valid, scans.valid⟩
  closed := scans.closed

theorem Scans.doubled (scans : Scans quoting text pieces rest) :
    Scans quoting (quoting.quote :: quoting.quote :: text) (.doubled :: pieces) rest :=
  .cons .doubled trivial scans

theorem Scans.escaped {escape : Symbol} (symbol : Symbol) (active : quoting.escape = some escape)
    (apart : escape ≠ quoting.quote) (scans : Scans quoting text pieces rest) :
    Scans quoting (escape :: symbol :: text) (.escaped symbol :: pieces) rest := by
  have taken := Scans.cons (.escaped symbol) ⟨escape, active, apart⟩ scans
  rw [Piece.spelling, active] at taken
  exact taken

theorem Scans.plain {symbol : Symbol} (apart : symbol ≠ quoting.quote)
    (inactive : quoting.escape ≠ some symbol) (scans : Scans quoting text pieces rest) :
    Scans quoting (symbol :: text) (.plain symbol :: pieces) rest :=
  .cons (.plain symbol) ⟨apart, inactive⟩ scans

end Quoted
