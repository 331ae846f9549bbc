import Mathlib.Data.List.Forall2
import AccessorSynthesis.Proofs.Report.Underline

/-!
# Dump — what goes to the log about the messages of a compilation

A message cannot be shown for two reasons only: its span lies in no source, or its underline would
be too wide (`Span.IsWide`).  Where else in a source a span lies does not matter, since every offset
has a position on some line.  A dump shows the messages in order, up to the first that cannot be
shown; behind the last one it adds a summary (`Diagnostics.dump_eq_iff`).  This file defines

* `Span.IsWide span document` — the underline of the span would need more than 65535 spaces or
  carets;
* `Logs sources messages lines` — the lines show the messages, one by one;
* `Dumps sources messages result` — the two ways in which a dump of the messages ends.
-/

namespace AccessorSynthesis

variable {sources : Sources} {messages : List Message} {message : Message} {lines : List LogLine}
variable {span : Span} {reason : Unshown}

/-- The span starts behind more than 65535 characters of its line, or covers more of one line. -/
def Span.IsWide (span : Span) (document : Document) : Prop :=
  65535 < (document.position span.start).column ∨
    (document.position span.start).line = (document.position span.stop).line ∧
      (document.position span.start).column + 65535 < (document.position span.stop).column

namespace Message

theorem render_of_unknown (hspan : message.span = some span)
    (hunknown : sources.get? span.file = none) :
    message.render sources = .error (.unknownSource span) := by
  simp only [render, hspan, hunknown]

/-- The position of the start is always on a line of the document, so that nothing but the width
counts. -/
theorem render_of_isWide {document : Document} (hspan : message.span = some span)
    (hknown : sources.get? span.file = some document) (h : span.IsWide document) :
    message.render sources = .error .tooWide := by
  rcases document.exists_line_position span.start with ⟨line, hline⟩
  rw [render_of_line hspan hknown hline rfl]
  refine if_neg ?_
  rintro ⟨hcolumn, hcarets⟩
  rcases h with h | h
  · exact Nat.not_le.2 h hcolumn
  · exact Nat.not_le.2 ((lt_underlineLength (by omega)).2 h) hcarets

theorem exists_render_of_not_isWide {document : Document} (hspan : message.span = some span)
    (hknown : sources.get? span.file = some document) (h : ¬span.IsWide document) :
    ∃ text, message.render sources = .ok text := by
  rcases document.exists_line_position span.start with ⟨line, hline⟩
  rw [render_of_line hspan hknown hline rfl, if_pos]
  · exact ⟨_, rfl⟩
  · refine ⟨Nat.not_lt.1 fun hcolumn => h (Or.inl hcolumn), Nat.not_lt.1 fun hcarets => ?_⟩
    exact h (Or.inr ((lt_underlineLength (by omega)).1 hcarets))

/-- What becomes of a message, by where its span lies. -/
theorem render_cases (message : Message) (sources : Sources) :
    (∃ text, message.render sources = .ok text) ∨
    (∃ span, message.span = some span ∧ sources.get? span.file = none ∧
      message.render sources = .error (.unknownSource span)) ∨
    ∃ span document, message.span = some span ∧ sources.get? span.file = some document ∧
      span.IsWide document ∧ message.render sources = .error .tooWide := by
  cases hspan : message.span with
  | none =>
      exact Or.inl ⟨message.text, by simp only [render, hspan]⟩
  | some span =>
      cases hknown : sources.get? span.file with
      | none =>
          exact Or.inr (Or.inl ⟨span, rfl, hknown, render_of_unknown hspan hknown⟩)
      | some document =>
          by_cases hwide : span.IsWide document
          · exact Or.inr (Or.inr
              ⟨span, document, rfl, hknown, hwide, render_of_isWide hspan hknown hwide⟩)
          · exact Or.inl (exists_render_of_not_isWide hspan hknown hwide)

theorem render_eq_unknownSource_iff : message.render sources = .error (.unknownSource span) ↔
    message.span = some span ∧ sources.get? span.file = none := by
  constructor
  · intro h
    rcases render_cases message sources with
      ⟨text, htext⟩ | ⟨other, hspan, hunknown, hother⟩ | ⟨other, document, _, _, _, hother⟩
    · rw [h] at htext
      cases htext
    · rw [h] at hother
      cases hother
      exact ⟨hspan, hunknown⟩
    · rw [h] at hother
      cases hother
  · rintro ⟨hspan, hunknown⟩
    exact render_of_unknown hspan hunknown

theorem render_eq_tooWide_iff : message.render sources = .error .tooWide ↔
    ∃ span document, message.span = some span ∧ sources.get? span.file = some document ∧
      span.IsWide document := by
  constructor
  · intro h
    rcases render_cases message sources with
      ⟨text, htext⟩ | ⟨other, _, _, hother⟩ | ⟨other, document, hspan, hknown, hwide, _⟩
    · rw [h] at htext
      cases htext
    · rw [h] at hother
      cases hother
    · exact ⟨other, document, hspan, hknown, hwide⟩
  · rintro ⟨span, document, hspan, hknown, hwide⟩
    exact render_of_isWide hspan hknown hwide

end Message

/-- The lines show the messages in order, each at the level of its severity. -/
def Logs (sources : Sources) : List Message → List LogLine → Prop :=
  List.Forall₂ fun message line =>
    ∃ text, message.render sources = .ok text ∧ line = ⟨message.severity.level, text⟩

/-- How a dump of the messages ends: with a summary behind all of them, or at the first that cannot
be shown. -/
inductive Dumps (sources : Sources) (messages : List Message) :
    List LogLine × Option Unshown → Prop where
  | completed {lines : List LogLine} (warnings errors : Nat) :
      Logs sources messages lines →
      warnings = (messages.filter fun message => message.severity = .warning).length →
      errors = (messages.filter fun message => message.severity = .error).length →
      Dumps sources messages
        (lines ++ [⟨.info, s!"Completed with {warnings} warnings and {errors} errors"⟩], none)
  | stopped {shown rest : List Message} {message : Message} {lines : List LogLine}
      {reason : Unshown} :
      messages = shown ++ message :: rest → Logs sources shown lines →
      message.render sources = .error reason →
      Dumps sources messages (lines, some reason)

theorem Logs.exists_text (h : Logs sources messages lines) (hmem : message ∈ messages) :
    ∃ text, message.render sources = .ok text := by
  induction h with
  | nil =>
      cases hmem
  | cons hfirst _ ih =>
      rcases List.mem_cons.1 hmem with rfl | hlater
      · rcases hfirst with ⟨text, htext, _⟩
        exact ⟨text, htext⟩
      · exact ih hlater

/-- Messages can all be shown, or there is a first one that cannot. -/
theorem exists_dumps (sources : Sources) (messages : List Message) :
    ∃ result, Dumps sources messages result := by
  have hends : (∃ lines, Logs sources messages lines) ∨
      ∃ shown message rest lines reason, messages = shown ++ message :: rest ∧
        Logs sources shown lines ∧ message.render sources = .error reason := by
    induction messages with
    | nil =>
        exact Or.inl ⟨[], List.Forall₂.nil⟩
    | cons first messages ih =>
        cases hfirst : first.render sources with
        | error reason =>
            exact Or.inr ⟨[], first, messages, [], reason, rfl, List.Forall₂.nil, hfirst⟩
        | ok text =>
            rcases ih with ⟨lines, hlines⟩ | ⟨shown, message, rest, lines, reason, rfl, hlines, h⟩
            · exact Or.inl ⟨_, List.Forall₂.cons ⟨text, hfirst, rfl⟩ hlines⟩
            · exact Or.inr ⟨first :: shown, message, rest, _, reason, rfl,
                List.Forall₂.cons ⟨text, hfirst, rfl⟩ hlines, h⟩
  rcases hends with ⟨lines, hlines⟩ | ⟨shown, message, rest, lines, reason, hsplit, hlines, h⟩
  · exact ⟨_, .completed _ _ hlines rfl rfl⟩
  · exact ⟨_, .stopped hsplit hlines h⟩

namespace Diagnostics

theorem renderAll_cons_of_ok {rest : List Message} {text : String}
    (h : message.render sources = .ok text) : renderAll sources (message :: rest)
      = (⟨message.severity.level, text⟩ :: (renderAll sources rest).1,
          (renderAll sources rest).2) := by
  simp only [renderAll, h]

theorem renderAll_of_logs (h : Logs sources messages lines) :
    renderAll sources messages = (lines, none) := by
  induction h with
  | nil =>
      rfl
  | cons hfirst _ ih =>
      rcases hfirst with ⟨text, htext, rfl⟩
      rw [renderAll_cons_of_ok htext, ih]

/-- Nothing behind a message that cannot be shown matters. -/
theorem renderAll_of_stopped (h : Logs sources messages lines)
    (hmessage : message.render sources = .error reason) (rest : List Message) :
    renderAll sources (messages ++ message :: rest) = (lines, some reason) := by
  induction h with
  | nil =>
      simp only [List.nil_append, renderAll, hmessage]
  | cons hfirst _ ih =>
      rcases hfirst with ⟨text, htext, rfl⟩
      rw [List.cons_append, renderAll_cons_of_ok htext, ih]

theorem dump_of_dumps {diagnostics : Diagnostics} {result : List LogLine × Option Unshown}
    (h : Dumps sources diagnostics.messages result) : diagnostics.dump sources = result := by
  cases h with
  | completed warnings errors hlogs hwarnings herrors =>
      rw [← List.countP_eq_length_filter] at hwarnings herrors
      simp only [dump, renderAll_of_logs hlogs, summary, count, hwarnings, herrors]
  | stopped hsplit hlogs hmessage =>
      simp only [dump, hsplit, renderAll_of_stopped hlogs hmessage]

/-- A dump ends as `Dumps` says, and in no other way.  It stops if and only if there is a message
that cannot be shown, and these are the messages whose spans lie in no source and those whose
underlines would be too wide, whatever else the ends of the spans are. -/
theorem dump_eq_iff (diagnostics : Diagnostics) (sources : Sources) :
    (∀ result, diagnostics.dump sources = result ↔ Dumps sources diagnostics.messages result) ∧
    ((diagnostics.dump sources).2.isSome = true ↔
      ∃ message ∈ diagnostics.messages, ∃ reason, message.render sources = .error reason) ∧
    (∀ (message : Message) (span : Span),
      message.render sources = .error (.unknownSource span) ↔
        message.span = some span ∧ sources.get? span.file = none) ∧
    ∀ message : Message, message.render sources = .error .tooWide ↔
      ∃ span document, message.span = some span ∧ sources.get? span.file = some document ∧
        span.IsWide document := by
  rcases exists_dumps sources diagnostics.messages with ⟨result, hresult⟩
  have hdump := dump_of_dumps hresult
  refine ⟨?_, ?_, fun _ _ => Message.render_eq_unknownSource_iff,
    fun _ => Message.render_eq_tooWide_iff⟩
  · intro other
    constructor
    · rintro rfl
      rw [hdump]
      exact hresult
    · exact dump_of_dumps
  · rw [hdump]
    cases hresult with
    | completed _ _ hlogs _ _ =>
        refine iff_of_false (by simp) ?_
        rintro ⟨message, hmem, reason, hrender⟩
        rcases hlogs.exists_text hmem with ⟨text, htext⟩
        rw [hrender] at htext
        cases htext
    | @stopped shown rest message lines reason hsplit _ hmessage =>
        refine iff_of_true rfl ⟨message, ?_, reason, hmessage⟩
        rw [hsplit]
        exact List.mem_append_right shown List.mem_cons_self

/-- The source of the message is known, and yet the dump stops there without a summary. -/
theorem dump_farMessage :
    (longLine 65537).source.utf8ByteSize < 4294967296 ∧ farMessage.span = some ⟨65536, 65537, 0⟩ ∧
    Sources.get? ⟨[longLine 65537]⟩ 0 = some (longLine 65537) ∧
    dump ⟨[farMessage]⟩ ⟨[longLine 65537]⟩ = ([], some .tooWide) := by
  have hstart : (longLine 65537).position 65536 = ⟨0, 65536⟩ := position_longLine (by omega)
  have hrender : farMessage.render ⟨[longLine 65537]⟩ = .error .tooWide := by
    refine Message.render_of_isWide rfl rfl (Or.inl ?_)
    rw [hstart]
    decide
  refine ⟨?_, rfl, rfl, dump_of_dumps (.stopped (List.nil_append _).symm List.Forall₂.nil hrender)⟩
  rw [size_longLine]
  omega

end Diagnostics
end AccessorSynthesis
