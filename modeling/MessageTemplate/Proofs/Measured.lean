/-
# Measured bodies

All sizes of a message are taken of its measured body, and each in a way of
its own.  They agree with each other (`Message.broadcast_sizes_agree`): what
forces a broadcast into UCS-2 is what is listed as outside the alphabets, the
list is in order of first appearance (`Gsm.pairwise_idxOf_outsiders`), and a
broadcast is too long exactly when it needs a second capacity.  They do not
grow when a part of the body is left out (`Measured.sizes_monotone`), although
the rest may then be measured in another encoding.
-/
import Mathlib
import MessageTemplate.Message.Basic
import MessageTemplate.Proofs.Body
import MessageTemplate.Proofs.Length

namespace MessageTemplate

/-! ## Characters outside the alphabets -/

namespace Gsm

/-- The characters listed are those of the text that are in neither alphabet. -/
theorem mem_outsiders {c : Char} {t : Text} :
    c ∈ outsiders t ↔ c ∈ t ∧ isOutside c = true := by
  rw [outsiders, List.mem_eraseDups, List.mem_filter]

/-- Of the characters of one sort in a text, without repetitions, each comes
where it appears first. -/
theorem pairwise_idxOf_eraseDups_filter (p : Char → Bool) (t : Text) :
    (t.filter p).eraseDups.Pairwise fun c d => t.idxOf c < t.idxOf d := by
  induction t generalizing p with
  | nil => exact List.Pairwise.nil
  | cons first rest ih =>
    -- what is listed behind the first character is different from it
    have hshift : ∀ q : Char → Bool, q first = false →
        (rest.filter q).eraseDups.Pairwise
          fun c d => (first :: rest).idxOf c < (first :: rest).idxOf d := by
      intro q hq
      have hne : ∀ c ∈ (rest.filter q).eraseDups, first ≠ c := by
        rintro c hc rfl
        rw [List.mem_eraseDups, List.mem_filter, hq] at hc
        cases hc.2
      refine (ih q).imp_of_mem fun hc hd hlt => ?_
      rw [List.idxOf_cons_ne _ (hne _ hc), List.idxOf_cons_ne _ (hne _ hd)]
      exact Nat.succ_lt_succ hlt
    cases hp : p first with
    | false =>
      rw [List.filter_cons_of_neg (by simp [hp])]
      exact hshift p hp
    | true =>
      have hself : (!first == first && p first) = false := by simp
      rw [List.filter_cons_of_pos hp, List.eraseDups_cons, List.filter_filter, List.pairwise_cons]
      refine ⟨fun c hc => ?_, hshift _ hself⟩
      rw [List.mem_eraseDups, List.mem_filter, Bool.and_eq_true, Bool.not_eq_true',
        beq_eq_false_iff_ne] at hc
      rw [List.idxOf_cons_self, List.idxOf_cons_ne _ (Ne.symm hc.2.1)]
      exact Nat.succ_pos _

/-- The characters outside the alphabets are listed in order of first appearance. -/
theorem pairwise_idxOf_outsiders (t : Text) :
    (outsiders t).Pairwise fun c d => t.idxOf c < t.idxOf d :=
  pairwise_idxOf_eraseDups_filter isOutside t

/-- None of them is listed twice. -/
theorem nodup_outsiders (t : Text) : (outsiders t).Nodup :=
  (pairwise_idxOf_outsiders t).imp fun hlt heq => by
    rw [heq] at hlt
    exact Nat.lt_irrefl _ hlt

/-- A text needs UCS-2 exactly when some are listed. -/
theorem ofText_eq_ucs2_iff_outsiders {t : Text} :
    Encoding.ofText t = .ucs2 ↔ outsiders t ≠ [] := by
  rw [ofText_eq_ucs2_iff]
  constructor
  · rintro ⟨c, hc, hout⟩
    exact List.ne_nil_of_mem (mem_outsiders.2 ⟨hc, hout⟩)
  · intro hne
    obtain ⟨c, hc⟩ := List.exists_mem_of_ne_nil _ hne
    exact ⟨c, mem_outsiders.1 hc⟩

/-- The capacity of a broadcast tells its encoding. -/
theorem Encoding.eq_ucs2_iff_broadcastCapacity {e : Encoding} :
    e = .ucs2 ↔ e.broadcastCapacity = Encoding.ucs2.broadcastCapacity := by
  cases e <;> decide

end Gsm

/-! ## Lengths of measured bodies -/

namespace Measured

variable {m : Measured}

/-- The encoding of a message is that of its measured body. -/
theorem encoding_length (m : Measured) : m.length.encoding = Gsm.Encoding.ofText m.body := rfl

/-- In UCS-2 a message has as many units as characters. -/
theorem units_of_ucs2 (h : m.length.encoding = .ucs2) : m.length.units = m.characters := by
  rw [encoding_length] at h
  simp only [length, Gsm.Length.add, Gsm.Length.ofText, h]
  rfl

/-- In GSM-7 each extended character takes one unit more. -/
theorem units_of_gsm7 (h : m.length.encoding = .gsm7) :
    m.length.units = m.characters + m.body.countP Gsm.isExtended := by
  rw [encoding_length] at h
  simp only [length, characters, Gsm.Length.add, Gsm.Length.ofText, h, Gsm.gsmUnits_eq]
  omega

/-- **Shorter bodies.**  A body of which something is left out has a length
within that of the whole, behind any service name. -/
theorem length_within_of_sublist {body whole : Text} (h : body.Sublist whole) (unresolved : Nat)
    (name : Option Text) :
    ((Measured.mk body unresolved).withName name).length.Within
      ((Measured.mk whole unresolved).withName name).length := by
  have hnamed : (withServiceName name body).Sublist (withServiceName name whole) := by
    rw [withServiceName_eq, withServiceName_eq]
    exact h.append_left (servicePrefix name)
  exact (Gsm.Length.ofText_within_of_sublist hnamed).add unresolved

end Measured

/-! ## Agreement and monotonicity -/

/-- **Broadcasts.**  All that can be asked about the size of a broadcast, of
either kind, tells the same: its encoding is UCS-2 exactly if characters
outside the alphabets are listed, and if it has the capacity of UCS-2; these
characters are listed once each in order of first appearance; its units are
its characters, in GSM-7 with the extended ones counted twice; and it is too
long exactly if it exceeds its capacity, and if it needs two of them. -/
theorem Message.broadcast_sizes_agree (m : Message) (h : m.kind.channel = .broadcast) :
    let body := (Measured.ofDraft m.draft).body
    ∃ length outsiders capacity parts,
      m.length? = some length ∧ m.outsiders? = some outsiders ∧ m.capacity? = some capacity
      ∧ m.parts? = some parts ∧ m.exceedsCapacity? = some m.isTooLong
      ∧ (length.encoding = .ucs2 ↔ outsiders ≠ [])
      ∧ (length.encoding = .ucs2 ↔ capacity = Gsm.Encoding.ucs2.broadcastCapacity)
      ∧ outsiders.Nodup
      ∧ (∀ c, c ∈ outsiders ↔ c ∈ body ∧ Gsm.isOutside c = true)
      ∧ outsiders.Pairwise (fun c d => body.idxOf c < body.idxOf d)
      ∧ (length.encoding = .ucs2 → length.units = m.characters)
      ∧ (length.encoding = .gsm7
        → length.units = m.characters + body.countP Gsm.isExtended)
      ∧ (m.isTooLong = true ↔ capacity < length.units)
      ∧ (m.isTooLong = true ↔ 2 ≤ parts) := by
  obtain ⟨kind, d⟩ := m
  intro body
  have hcharacters : (Message.mk kind d).characters = (Measured.ofDraft d).characters := by
    simp only [Message.characters, h]
  have htooLong : (Message.mk kind d).isTooLong = d.broadcastIsTooLong := by
    simp only [Message.isTooLong, h]
  have hexceeds : d.broadcastIsTooLong = true
      ↔ d.broadcastLength.encoding.broadcastCapacity < d.broadcastLength.units := by
    rw [Draft.broadcastIsTooLong, decide_eq_true_iff]
  refine ⟨d.broadcastLength, d.broadcastOutsiders, d.broadcastLength.encoding.broadcastCapacity,
    d.broadcastParts, ?_, ?_, ?_, ?_, ?_, Gsm.ofText_eq_ucs2_iff_outsiders,
    Gsm.Encoding.eq_ucs2_iff_broadcastCapacity, Gsm.nodup_outsiders body,
    fun c => Gsm.mem_outsiders, Gsm.pairwise_idxOf_outsiders body, ?_, ?_, ?_, ?_⟩
  · simp only [Message.length?, h]
  · simp only [Message.outsiders?, h]
  · simp only [Message.capacity?, h]
  · simp only [Message.parts?, h]
  · simp only [Message.exceedsCapacity?, Message.isTooLong, h]
  · rw [hcharacters]
    exact Measured.units_of_ucs2
  · rw [hcharacters]
    exact Measured.units_of_gsm7
  · rw [htooLong]
    exact hexceeds
  · rw [htooLong, hexceeds]
    exact Gsm.two_le_broadcastParts_iff.symm

/-- A broadcast with two characters outside the alphabets, one of them twice,
a bracket and a placeholder without a value. -/
theorem Message.broadcast_sizes_agree_mixed :
    let m : Message :=
      ⟨.broadcastPreview, ⟨⟨"深[Ж深((name))".toList, none, .broadcast⟩, {}, .empty⟩⟩
    m.kind.channel = .broadcast ∧ m.length? = some ⟨5, 5, .ucs2⟩
      ∧ m.outsiders? = some ['深', 'Ж'] ∧ m.capacity? = some 615 ∧ m.parts? = some 1
      ∧ m.characters = 5 ∧ m.isTooLong = false ∧ m.exceedsCapacity? = some false := by
  intro m
  have hmeasured : Measured.ofDraft m.draft = ⟨['深', '[', 'Ж', '深'], 1⟩ := by cbv
  have hlength : m.draft.broadcastLength = ⟨5, 5, .ucs2⟩ := by
    rw [Draft.broadcastLength, hmeasured]
    decide +kernel
  have houtsiders : m.outsiders? = some ['深', 'Ж'] := by
    show some (Gsm.outsiders (Measured.ofDraft m.draft).body) = _
    rw [hmeasured]
    decide +kernel
  have hcapacity : m.capacity? = some 615 := by
    show some m.draft.broadcastLength.encoding.broadcastCapacity = _
    rw [hlength]
    rfl
  have hparts : m.parts? = some 1 := by
    show some (Gsm.broadcastParts m.draft.broadcastLength.units _) = _
    rw [hlength]
    decide
  obtain ⟨length, outsiders, capacity, parts, hlength', houtsiders', hcapacity', hparts', hexceeds,
    -, -, -, -, -, hunits, -, hlong, -⟩ := broadcast_sizes_agree m rfl
  have hsome : m.length? = some ⟨5, 5, .ucs2⟩ := congrArg some hlength
  have heq : length = ⟨5, 5, .ucs2⟩ := Option.some.inj (hlength'.symm.trans hsome)
  have hcap : capacity = 615 := Option.some.inj (hcapacity'.symm.trans hcapacity)
  rw [heq] at hunits hlong
  rw [hcap] at hlong
  have hshort : m.isTooLong = false :=
    Bool.eq_false_iff.2 fun htoo => absurd (hlong.1 htoo) (by decide)
  rw [hshort] at hexceeds
  exact ⟨rfl, hsome, houtsiders, hcapacity, hparts, (hunits rfl).symm, hshort, hexceeds⟩

/-- **Leaving out.**  A text of which a part is left out needs no more parts,
as a text message or as a broadcast, and exceeds the capacity of a broadcast
only if the whole text does.  So a message of which a part of the measured body
is left out, with as many placeholders without a value, needs no more parts and
is too long only if the whole message is. -/
theorem Measured.sizes_monotone (a b c : Text) :
    (let shorter := Gsm.Length.ofText (a ++ c)
      let longer := Gsm.Length.ofText (a ++ b ++ c)
      Gsm.smsParts shorter.units shorter.encoding ≤ Gsm.smsParts longer.units longer.encoding
      ∧ Gsm.broadcastParts shorter.units shorter.encoding
        ≤ Gsm.broadcastParts longer.units longer.encoding
      ∧ (shorter.encoding.broadcastCapacity < shorter.units
        → longer.encoding.broadcastCapacity < longer.units))
    ∧ ∀ (unresolved : Nat) (name : Option Text),
      let shorter := Measured.mk (a ++ c) unresolved
      let longer := Measured.mk (a ++ b ++ c) unresolved
      Gsm.smsParts (shorter.withName name).length.units (shorter.withName name).length.encoding
        ≤ Gsm.smsParts (longer.withName name).length.units (longer.withName name).length.encoding
      ∧ Gsm.broadcastParts shorter.length.units shorter.length.encoding
        ≤ Gsm.broadcastParts longer.length.units longer.length.encoding
      ∧ (Gsm.characterLimit < shorter.characters → Gsm.characterLimit < longer.characters)
      ∧ (shorter.length.encoding.broadcastCapacity < shorter.length.units
        → longer.length.encoding.broadcastCapacity < longer.length.units) := by
  have hsublist : (a ++ c).Sublist (a ++ b ++ c) :=
    (List.sublist_append_left a b).append_right c
  have htext := Gsm.Length.ofText_within_of_sublist hsublist
  refine ⟨⟨htext.smsParts_le, htext.broadcastParts_le, htext.broadcastCapacity_lt⟩, ?_⟩
  intro unresolved name shorter longer
  have hnamed := length_within_of_sublist hsublist unresolved name
  have hplain : shorter.length.Within longer.length :=
    length_within_of_sublist hsublist unresolved none
  refine ⟨hnamed.smsParts_le, hplain.broadcastParts_le, fun hlong => ?_,
    hplain.broadcastCapacity_lt⟩
  exact Nat.lt_of_lt_of_le hlong (Nat.add_le_add_right hsublist.length_le unresolved)

end MessageTemplate
