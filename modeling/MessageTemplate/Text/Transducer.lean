/-
# Letter-to-word transducers

Most passes over a text read it once from left to right, remember a little,
and write some characters for each character read.  A `Transducer` is such a
pass: a first state, a step that gives the next state and the word to write,
and what is written when the text ends.

`Transducer.run` keeps its output in an accumulator, so a pass takes constant
stack on a text of any length; `runFrom_nil` and `runFrom_cons` are the
equations that proofs use.
-/
namespace MessageTemplate

/-- A pass from left to right with states `σ`, letters read `α` and letters written `β`. -/
structure Transducer (σ α β : Type) where
  /-- The state before the first letter. -/
  start : σ
  /-- The state after a letter and the word written for it. -/
  step : σ → α → σ × List β
  /-- The word written at the end of the text. -/
  finish : σ → List β

namespace Transducer

variable {σ α β : Type} (m : Transducer σ α β)

/-- Worker of `runFrom`; `out` holds what was written so far, latest first. -/
def runAux : σ → List α → List β → List β
  | s, [], out => out.reverseAux (m.finish s)
  | s, a :: rest, out => runAux (m.step s a).1 rest ((m.step s a).2.reverseAux out)

/-- All that is written from a given state on. -/
def runFrom (s : σ) (t : List α) : List β :=
  m.runAux s t []

/-- All that is written for a text. -/
def run (t : List α) : List β :=
  m.runFrom m.start t

/-- What was written before stays in front. -/
theorem runAux_eq (s : σ) (t : List α) (out : List β) :
    m.runAux s t out = out.reverse ++ m.runFrom s t := by
  induction t generalizing s out with
  | nil => simp [runAux, runFrom, List.reverseAux_eq]
  | cons a rest ih =>
    rw [runFrom, runAux, runAux, ih, ih]
    simp [List.reverseAux_eq]

@[simp] theorem runFrom_nil (s : σ) : m.runFrom s [] = m.finish s := by
  simp [runFrom, runAux]

@[simp] theorem runFrom_cons (s : σ) (a : α) (rest : List α) :
    m.runFrom s (a :: rest) = (m.step s a).2 ++ m.runFrom (m.step s a).1 rest := by
  rw [runFrom, runAux, runAux_eq]
  simp [List.reverseAux_eq]

/-- The state after a text. -/
def stateAfter (s : σ) (t : List α) : σ :=
  t.foldl (fun s a => (m.step s a).1) s

/-- What is written while a text is read, without the word at its end. -/
def written (s : σ) : List α → List β
  | [] => []
  | a :: rest => (m.step s a).2 ++ written (m.step s a).1 rest

/-- A run over two texts is the pass over the first and a run from the state it ends in. -/
theorem runFrom_append (s : σ) (t u : List α) :
    m.runFrom s (t ++ u) = m.written s t ++ m.runFrom (m.stateAfter s t) u := by
  induction t generalizing s with
  | nil => simp [written, stateAfter]
  | cons a rest ih => simp [written, stateAfter, ih]

end Transducer

end MessageTemplate
