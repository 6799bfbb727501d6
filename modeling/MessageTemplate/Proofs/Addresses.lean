/-
# Email addresses in a text

An email address is looked for as a word of a pattern: characters of a token, an
at sign and further characters of a token.  Looked for from left to right, each
time as long as can be, addresses are whole tokens (`emailAt?_eq`), and the
characters that they cover are those marked as part of an email token
(`coveredBy_emailSpans`).
-/
import Mathlib
import MessageTemplate.Proofs.Quotes
import MessageTemplate.Proofs.Runs

namespace MessageTemplate

/-! ## Tokens, one by one -/

section Tokens

variable {w : Text}

/-- The characters of a token are held back until it ends. -/
theorem emailPass_runFrom_token (hw : ∀ c ∈ w, endsToken c = false) (read t : Text) :
    emailPass.runFrom read (w ++ t) = emailPass.runFrom (w.reverse ++ read) t := by
  induction w generalizing read with
  | nil => rfl
  | cons c w ih =>
    rw [List.forall_mem_cons] at hw
    have hstep : emailPass.step read c = (c :: read, []) := by
      simp [emailPass, hw.1]
    rw [List.cons_append, Transducer.runFrom_cons, hstep, ih hw.2, List.reverse_cons,
      List.append_assoc]
    rfl

/-- A text that is one token is marked as that token. -/
theorem markEmails_token (hw : ∀ c ∈ w, endsToken c = false) : markEmails w = markToken w := by
  have hrun := emailPass_runFrom_token hw [] []
  rw [List.append_nil, List.append_nil, Transducer.runFrom_nil] at hrun
  rw [markEmails, Transducer.run]
  calc emailPass.runFrom [] w
      = markToken w.reverse.reverse := hrun
    _ = markToken w := by rw [List.reverse_reverse]

/-- The first token of a text is marked by itself, and so is the text behind it. -/
theorem markEmails_append_cons (hw : ∀ c ∈ w, endsToken c = false) {c : Char}
    (hc : endsToken c = true) (t : Text) :
    markEmails (w ++ c :: t) = markToken w ++ (c, false) :: markEmails t := by
  have hstep : emailPass.step w.reverse c = ([], markToken w ++ [(c, false)]) := by
    simp [emailPass, hc]
  rw [markEmails, Transducer.run]
  show emailPass.runFrom [] (w ++ c :: t) = _
  rw [emailPass_runFrom_token hw, List.append_nil, Transducer.runFrom_cons, hstep,
    List.append_assoc]
  rfl

end Tokens

/-! ## The pattern -/

/-- A word of the pattern: characters of a token, an at sign and characters of a token. -/
def IsEmail (w : Text) : Prop :=
  ∃ user host, w = user ++ '@' :: host ∧ user ≠ [] ∧ host ≠ []
    ∧ ∀ c ∈ user ++ host, endsToken c = false

/-- An address is an email token without anything that ends one. -/
theorem isEmail_iff {w : Text} :
    IsEmail w ↔ isEmailToken w = true ∧ ∀ c ∈ w, endsToken c = false := by
  rw [isEmailToken_iff]
  constructor
  · rintro ⟨user, host, rfl, huser, hhost, hends⟩
    rw [List.forall_mem_append] at hends
    refine ⟨⟨user, host, huser, hhost, rfl⟩, ?_⟩
    rw [List.forall_mem_append, List.forall_mem_cons]
    exact ⟨hends.1, by decide, hends.2⟩
  · rintro ⟨⟨user, host, huser, hhost, rfl⟩, hends⟩
    rw [List.forall_mem_append, List.forall_mem_cons] at hends
    exact ⟨user, host, rfl, huser, hhost, List.forall_mem_append.2 ⟨hends.1, hends.2.2⟩⟩

/-- Whether a text is an address can be read off it. -/
instance (w : Text) : Decidable (IsEmail w) :=
  decidable_of_iff _ isEmail_iff.symm

/-- The longest address at the front of a text. -/
def emailAt? (t : Text) : Option Text :=
  (t.inits.filter fun w => IsEmail w).argmax List.length

/-- The addresses of a text from left to right, as the offsets where they start
and end; the first character of the text has the given offset. -/
def emailSpans (offset : Nat) (t : Text) : List (Nat × Nat) :=
  match t with
  | [] => []
  | c :: rest =>
    match emailAt? (c :: rest) with
    | none => emailSpans (offset + 1) rest
    | some w =>
      (offset, offset + w.length)
        :: emailSpans (offset + w.length) (rest.drop (w.length - 1))
termination_by t.length
decreasing_by
  · simp
  · simp only [List.length_drop, List.length_cons]
    omega

/-- Whether an offset lies within one of some spans. -/
def coveredBy (spans : List (Nat × Nat)) (i : Nat) : Bool :=
  spans.any fun span => span.1 ≤ i && i < span.2

/-! ## Addresses are tokens -/

/-- **Longest addresses.**  The longest address at the front of a text is its
first token, if that is an email token; otherwise there is none. -/
theorem emailAt?_eq (t : Text) :
    emailAt? t
      = if isEmailToken (t.takeWhile fun c => !endsToken c) = true
        then some (t.takeWhile fun c => !endsToken c) else none := by
  have htoken : ∀ c ∈ t.takeWhile fun c => !endsToken c, endsToken c = false :=
    fun c hc => by simpa using List.mem_takeWhile_imp hc
  have hmem : (t.takeWhile fun c => !endsToken c) ∈ t.inits :=
    (List.mem_inits _ _).2 (List.takeWhile_prefix _)
  -- every address at the front lies in the first token, which is then an email token
  have hfront : ∀ w ∈ t.inits.filter fun w => IsEmail w,
      w <+: (t.takeWhile fun c => !endsToken c)
        ∧ isEmailToken (t.takeWhile fun c => !endsToken c) = true := by
    intro w hw
    rw [List.mem_filter, List.mem_inits, decide_eq_true_eq, isEmail_iff] at hw
    obtain ⟨⟨rest, rfl⟩, hemail, hends⟩ := hw
    rw [List.takeWhile_append_of_pos fun c hc => by simpa using hends c hc]
    exact ⟨List.prefix_append w _, isEmailToken_append hemail [] _⟩
  cases hlongest : emailAt? t with
  | none =>
    rw [emailAt?, List.argmax_eq_none, List.filter_eq_nil_iff] at hlongest
    rw [if_neg]
    intro hemail
    exact hlongest _ hmem (decide_eq_true (isEmail_iff.2 ⟨hemail, htoken⟩))
  | some w =>
    obtain ⟨hlies, hemail⟩ := hfront w (List.argmax_mem hlongest)
    have hlength : (t.takeWhile fun c => !endsToken c).length ≤ w.length := by
      refine List.le_of_mem_argmax (List.mem_filter.2 ⟨hmem, ?_⟩) hlongest
      exact decide_eq_true (isEmail_iff.2 ⟨hemail, htoken⟩)
    rw [if_pos hemail, hlies.eq_of_length_le hlength]

section Spans

variable {w rest : Text}

/-- The first token of a text that starts with a token. -/
theorem takeWhile_token (hw : ∀ c ∈ w, endsToken c = false)
    (hrest : (rest.takeWhile fun c => !endsToken c) = []) :
    ((w ++ rest).takeWhile fun c => !endsToken c) = w := by
  rw [List.takeWhile_append_of_pos fun c hc => by simpa using hw c hc, hrest, List.append_nil]

/-- Where no address is found, one character is passed. -/
theorem emailSpans_cons {c : Char} (h : emailAt? (c :: rest) = none) (offset : Nat) :
    emailSpans offset (c :: rest) = emailSpans (offset + 1) rest := by
  rw [emailSpans, h]

/-- **Tokens.**  An email token is one address, and there is none in any other. -/
theorem emailSpans_token (hw : ∀ c ∈ w, endsToken c = false)
    (hrest : (rest.takeWhile fun c => !endsToken c) = []) (offset : Nat) :
    emailSpans offset (w ++ rest)
      = (if isEmailToken w = true then [(offset, offset + w.length)] else [])
        ++ emailSpans (offset + w.length) rest := by
  by_cases hemail : isEmailToken w = true
  · have hfound : emailAt? (w ++ rest) = some w := by
      rw [emailAt?_eq, takeWhile_token hw hrest, if_pos hemail]
    cases w with
    | nil => cases hemail
    | cons c w =>
      rw [List.cons_append] at hfound ⊢
      rw [emailSpans, hfound, if_pos hemail]
      simp
  · rw [if_neg hemail, List.nil_append]
    induction w generalizing offset with
    | nil => rfl
    | cons c w ih =>
      have hnone : emailAt? (c :: (w ++ rest)) = none := by
        rw [← List.cons_append, emailAt?_eq, takeWhile_token hw hrest, if_neg hemail]
      have hshorter : ¬ isEmailToken w = true := by
        intro h
        have hlonger := isEmailToken_append h [c] []
        rw [List.append_nil] at hlonger
        exact hemail hlonger
      rw [List.cons_append, emailSpans_cons hnone,
        ih (List.forall_mem_cons.1 hw).2 _ hshorter, List.length_cons]
      congr 1
      omega

/-- What ends a token is part of no address. -/
theorem emailSpans_ends {c : Char} (hc : endsToken c = true) (offset : Nat) :
    emailSpans offset (c :: rest) = emailSpans (offset + 1) rest := by
  refine emailSpans_cons ?_ offset
  rw [emailAt?_eq, List.takeWhile_cons_of_neg (by simp [hc])]
  rfl

end Spans

/-- Addresses start no earlier than the text that they are found in. -/
theorem le_of_mem_emailSpans {offset : Nat} {t : Text} {span : Nat × Nat}
    (h : span ∈ emailSpans offset t) : offset ≤ span.1 := by
  fun_induction emailSpans offset t with
  | case1 => cases h
  | case2 offset c rest hnone ih => exact (ih h).trans' (Nat.le_succ offset)
  | case3 offset c rest w hsome ih =>
    rcases List.mem_cons.1 h with rfl | h
    · exact le_rfl
    · exact (ih h).trans' (Nat.le_add_right offset w.length)

/-- Further on no earlier offset is covered. -/
theorem coveredBy_emailSpans_eq_false {offset i : Nat} (h : i < offset) (t : Text) :
    coveredBy (emailSpans offset t) i = false := by
  rw [coveredBy, List.any_eq_false]
  intro span hspan
  have hstart := le_of_mem_emailSpans hspan
  simp only [Bool.and_eq_true, decide_eq_true_eq]
  omega

/-- A token is covered throughout, if it is an email token, and not at all otherwise. -/
theorem coveredBy_token (w : Text) (offset i : Nat) :
    coveredBy (if isEmailToken w = true then [(offset, offset + w.length)] else []) (offset + i)
      = (markToken w)[i]?.any Prod.snd := by
  rw [markToken, List.getElem?_map, Option.any_map]
  cases isEmailToken w with
  | true =>
    by_cases hi : i < w.length
    · rw [List.getElem?_eq_getElem hi]
      simp [coveredBy, hi]
    · rw [List.getElem?_eq_none (Nat.le_of_not_lt hi)]
      simp [coveredBy, hi]
  | false => cases w[i]? <;> rfl

/-- **Marks and spans.**  A character is marked exactly if an address covers it. -/
theorem coveredBy_emailSpans (t : Text) (offset i : Nat) :
    coveredBy (emailSpans offset t) (offset + i) = (markEmails t)[i]?.any Prod.snd := by
  induction t using Text.induction_on_runs endsToken generalizing offset i with
  | last w hw =>
    have hnothing : ([] : Text).takeWhile (fun c => !endsToken c) = [] := rfl
    have hspans := emailSpans_token hw hnothing offset
    rw [emailSpans, List.append_nil, List.append_nil] at hspans
    rw [hspans, markEmails_token hw, coveredBy_token]
  | next w c t hw hc ih =>
    rw [emailSpans_token hw (List.takeWhile_cons_of_neg (by simp [hc])), emailSpans_ends hc,
      markEmails_append_cons hw hc]
    have hsplit : ∀ spans spans' : List (Nat × Nat),
        coveredBy (spans ++ spans') (offset + i)
          = (coveredBy spans (offset + i) || coveredBy spans' (offset + i)) :=
      fun _ _ => List.any_append
    have hlength : (markToken w).length = w.length := List.length_map _
    rw [hsplit, coveredBy_token]
    by_cases hi : i ≤ w.length
    · -- up to the end of the token no later address covers anything
      rw [coveredBy_emailSpans_eq_false (by omega), Bool.or_false]
      rcases Nat.lt_or_eq_of_le hi with hlt | rfl
      · rw [List.getElem?_append_left (by rwa [hlength])]
      · rw [List.getElem?_append_right hlength.le, hlength, Nat.sub_self,
          List.getElem?_eq_none hlength.le]
        rfl
    · obtain ⟨j, rfl⟩ := Nat.exists_eq_add_of_lt (Nat.lt_of_not_le hi)
      rw [List.getElem?_append_right (by omega), List.getElem?_eq_none (by omega), hlength,
        show w.length + j + 1 - w.length = j + 1 by omega, List.getElem?_cons_succ, ← ih,
        show offset + (w.length + j + 1) = offset + w.length + 1 + j by omega]
      rfl

/-- An address covers a place exactly if the character there is no end of a token
and the token around it is an email token. -/
theorem coveredBy_in_place (front : Text) (c : Char) (after : Text) :
    coveredBy (emailSpans 0 (front ++ c :: after)) front.length
      = (!endsToken c && isEmailToken (tokenAround endsToken front.reverse (c :: after))) := by
  have hmark := coveredBy_emailSpans (front ++ c :: after) 0 front.length
  rw [Nat.zero_add, markEmails_eq, getElem?_writeInPlace, List.append_nil] at hmark
  exact hmark

end MessageTemplate
