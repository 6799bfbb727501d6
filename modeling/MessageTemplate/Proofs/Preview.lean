/-
# Previews and the text that is sent

A preview makes markup of every piece of a message and then spaces, prefixes
and downgrades the whole; the message does all of that on the text as written.
Escaping commutes with each of these steps (`Gsm.downgrade_escape`,
`servicePrefix_map_escape`, `Draft.markupBody_eq_escape`), so the two end with
the same text (`Draft.previewBody_eq`).
-/
import MessageTemplate.Message.Basic
import MessageTemplate.Proofs.Body

namespace MessageTemplate

/-! ## Escaping and downgrading -/

namespace Gsm

/-- No lookalike opens or closes markup. -/
theorem escape_lookalikes : ∀ p ∈ lookalikes, Html.escape p.2 = p.2 := by
  decide

/-- A character that opens or closes no markup is sent as such characters. -/
theorem escape_downgradeCharacter {c : Char} (h : Html.entity c = [c]) :
    Html.escape (downgradeCharacter c) = downgradeCharacter c := by
  rw [downgradeCharacter]
  cases hlook : lookalike? c with
  | some w => exact escape_lookalikes _ (mem_lookalikes hlook)
  | none =>
    show Html.escape (if isSendable c then [c] else ['?']) = if isSendable c then [c] else ['?']
    split
    · rw [Html.escape, List.flatMap_singleton, h]
    · rfl

/-- The characters of the entities for markup are all in the alphabets. -/
theorem isOutside_markup : "&<>amplgt;".toList.any isOutside = false := by
  decide +kernel

/-- A character is escaped before it is sent, or it is sent and what was sent
is escaped. -/
theorem downgrade_entity (c : Char) :
    downgrade (Html.entity c) = Html.escape (downgradeCharacter c) := by
  rcases Html.entity_eq_or c with hself | hsub
  · rw [escape_downgradeCharacter hself, hself]
    exact List.flatMap_singleton downgradeCharacter c
  · -- neither the character nor its entity is changed when it is sent
    have hinside : ∀ d ∈ c :: Html.entity c, isOutside d = false := by
      intro d hd
      exact Bool.eq_false_iff.2 (List.any_eq_false.1 isOutside_markup d (hsub hd))
    rw [downgrade_of_inside fun d hd => hinside d (List.mem_cons_of_mem c hd),
      downgradeCharacter_of_inside (hinside c List.mem_cons_self)]
    exact (List.append_nil _).symm

/-- **Escaping and downgrading commute.** -/
theorem downgrade_escape (t : Text) : downgrade (Html.escape t) = Html.escape (downgrade t) := by
  unfold downgrade Html.escape
  rw [List.flatMap_assoc, List.flatMap_assoc]
  apply List.flatMap_congr
  intro c _
  exact downgrade_entity c

end Gsm

/-! ## Previews -/

namespace Draft

variable {d : Draft}

/-- Escaping a text before or after it is made ready to go out is the same. -/
theorem sendable_escape (d : Draft) (t : Text) :
    d.sendable (Html.escape t) = Html.escape (d.sendable t) := by
  unfold sendable
  split
  · exact Gsm.downgrade_escape t
  · rfl

/-- The body of a preview is the text that is sent, written in markup with its
line breaks as tags and its links as anchors. -/
theorem previewBody_eq (h : d.unresolved = 0) (name : Option Text) :
    d.previewBody name = Html.autolink .preview true
      (Html.breakLines (Html.escape (d.sendable (withServiceName name d.plainBody)))) := by
  have hbody : withServiceName (name.map Html.escape) d.markupBody
      = Html.escape (withServiceName name d.plainBody) := by
    rw [withServiceName_eq, withServiceName_eq, servicePrefix_map_escape,
      markupBody_eq_escape h, Html.escape_append]
  rw [previewBody, hbody, sendable_escape]

end Draft

namespace Message

/-- **Previews.**  Inside its frame, and behind the recipient and the sender if
they are shown, the preview of a text message shows exactly the text that is
sent; and under its heading the preview of a broadcast does. -/
theorem preview_shows_sent_text (d : Draft) (hresolved : d.unresolved = 0) :
    (Message.mk .smsPreview d).rendered
        = d.smsRecipientLine ++ "<div class=\"sms-message-wrapper\">".toList ++ d.smsSender
          ++ Html.autolink .preview true
            (Html.breakLines (Html.escape (Message.mk .smsMessage d).rendered))
          ++ "</div>".toList
      ∧ (Message.mk .broadcastPreview d).rendered
        = "<div class=\"broadcast-message-wrapper\"><h2 class=\"broadcast-message-heading\">".toList
          ++ Draft.alertIcon ++ "Emergency alert</h2>".toList
          ++ Html.autolink .preview true
            (Html.breakLines (Html.escape (Message.mk .broadcastMessage d).rendered))
          ++ "</div>".toList := by
  have hsms : d.previewBody d.options.visibleServiceName = Html.autolink .preview true
      (Html.breakLines (Html.escape (Message.mk .smsMessage d).rendered)) :=
    Draft.previewBody_eq hresolved d.options.visibleServiceName
  have hbroadcast : d.previewBody none = Html.autolink .preview true
      (Html.breakLines (Html.escape (Message.mk .broadcastMessage d).rendered)) :=
    Draft.previewBody_eq hresolved none
  rw [← hsms, ← hbroadcast]
  exact ⟨rfl, rfl⟩

/-- Markup in a service name, in conditional text and in a value is shown as
it is sent. -/
theorem preview_shows_nested_markup :
    let d : Draft := ⟨⟨"Hi((show??, <((name))> & co))".toList, none, .sms⟩,
      { serviceName := some "A&B".toList, downgrade := false },
      .ofList [("show".toList, .flag true), ("name".toList, .text "Jo>".toList)]⟩
    d.unresolved = 0
      ∧ (Message.mk .smsMessage d).rendered = "A&B: Hi, <Jo>> & co".toList
      ∧ (Message.mk .smsPreview d).rendered
        = "<div class=\"sms-message-wrapper\">".toList
          ++ Html.autolink .preview true "A&amp;B: Hi, &lt;Jo&gt;&gt; &amp; co".toList
          ++ "</div>".toList := by
  intro d
  have hresolved : d.unresolved = 0 := by cbv
  have hsent : (Message.mk .smsMessage d).rendered = "A&B: Hi, <Jo>> & co".toList := by cbv
  have hpreview := (preview_shows_sent_text d hresolved).1
  have hmarkup : Html.breakLines (Html.escape "A&B: Hi, <Jo>> & co".toList)
      = "A&amp;B: Hi, &lt;Jo&gt;&gt; &amp; co".toList := by decide +kernel
  rw [hsent, hmarkup] at hpreview
  refine ⟨hresolved, hsent, ?_⟩
  rw [hpreview]
  rfl

end Message

end MessageTemplate
