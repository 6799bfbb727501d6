/-
# Runs

The lines of a text, the words of a line and the tokens of a text are read in
the same way: some characters end a run, and a run is what stands between them.
A text is one run, or a run, a character that ends it and a further text
(`Text.induction_on_runs`).  The runs of a text that are not empty come one
after the other (`Text.runs_append_cons`), and everything about them follows
from that.
-/
import Mathlib
import MessageTemplate.Text.Basic

namespace MessageTemplate.Text

variable {ends : Char → Bool}

/-- **Run by run.**  What holds of a single run, and of a run in front of a text
of which it holds, holds of every text. -/
@[elab_as_elim]
theorem induction_on_runs (ends : Char → Bool) {motive : Text → Prop} (t : Text)
    (last : ∀ w : Text, (∀ c ∈ w, ends c = false) → motive w)
    (next : ∀ (w : Text) (c : Char) (t : Text), (∀ d ∈ w, ends d = false) → ends c = true →
      motive t → motive (w ++ c :: t)) : motive t := by
  have held : ∀ w : Text, (∀ c ∈ w, ends c = false) → motive (w ++ t) := by
    induction t with
    | nil =>
      intro w hw
      rw [List.append_nil]
      exact last w hw
    | cons c t ih =>
      intro w hw
      cases hc : ends c with
      | true => exact next w c t hw hc (ih [] fun d hd => absurd hd List.not_mem_nil)
      | false =>
        -- the character joins the run read so far
        have hjoined := ih (w ++ [c]) (List.forall_mem_append.2 ⟨hw, by simpa using hc⟩)
        rwa [List.append_assoc, List.singleton_append] at hjoined
  exact held [] fun c hc => absurd hc List.not_mem_nil

/-- The runs of a text that are not empty, in reading order. -/
def runs (ends : Char → Bool) (t : Text) : List Text :=
  (t.splitOnP ends).filter fun w => !w.isEmpty

/-- A text that nothing ends is one run. -/
theorem splitOnP_of_forall {w : Text} (hw : ∀ c ∈ w, ends c = false) : w.splitOnP ends = [w] :=
  List.splitOnP_eq_singleton fun c hc => by simpa using hw c hc

/-- A text that nothing ends is its only run, unless it is empty. -/
theorem runs_of_forall {w : Text} (hw : ∀ c ∈ w, ends c = false) :
    runs ends w = if w = [] then [] else [w] := by
  rw [runs, splitOnP_of_forall hw]
  cases w <;> rfl

/-- **Runs.**  A character that ends a run parts the runs in front of it from
those behind it. -/
theorem runs_append_cons {c : Char} (hc : ends c = true) (t u : Text) :
    runs ends (t ++ c :: u) = runs ends t ++ runs ends u := by
  unfold runs
  rw [List.splitOnP_append_cons t u hc, List.filter_append]

/-- What ends runs holds none itself. -/
theorem runs_append_of_forall {w : Text} (hw : ∀ c ∈ w, ends c = true) (t : Text) :
    runs ends (w ++ t) = runs ends t := by
  induction w with
  | nil => rfl
  | cons c w ih =>
    rw [List.forall_mem_cons] at hw
    exact (runs_append_cons hw.1 [] (w ++ t)).trans (ih hw.2)

/-- What ends runs parts none at the end of a text either. -/
theorem runs_append_of_forall_right {w : Text} (hw : ∀ c ∈ w, ends c = true) (t : Text) :
    runs ends (t ++ w) = runs ends t := by
  cases w with
  | nil => rw [List.append_nil]
  | cons c w =>
    obtain ⟨hc, hrest⟩ := List.forall_mem_cons.1 hw
    have hnone : runs ends w = [] := by
      have hends := runs_append_of_forall hrest ([] : Text)
      rwa [List.append_nil] at hends
    rw [runs_append_cons hc, hnone, List.append_nil]

/-- A run at the front of a text ends before the first character that ends it. -/
theorem takeWhile_append_cons {p : Char → Bool} {c : Char} (hc : p c = false) (front rest : Text) :
    (front ++ c :: rest).takeWhile p = front.takeWhile p := by
  induction front with
  | nil => exact List.takeWhile_cons_of_neg (by simp [hc])
  | cons d front ih => rw [List.cons_append, List.takeWhile_cons, List.takeWhile_cons, ih]

/-- No run is empty. -/
theorem nil_not_mem_runs (t : Text) : [] ∉ runs ends t := by
  unfold runs
  rw [List.mem_filter]
  rintro ⟨-, h⟩
  cases h

end MessageTemplate.Text
