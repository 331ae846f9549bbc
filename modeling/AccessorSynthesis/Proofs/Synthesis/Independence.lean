import AccessorSynthesis.Proofs.Synthesis.Order

/-!
# Independence — what a visit reads of other declarations

A visit asks other declarations no more than who their supertypes are and whether they carry the
annotation: it reads their outlines.  `synthesize_independent` compares visits of one declaration in
two tables in which everything else about the others may differ, above all the texts that their
annotations give.
-/

namespace AccessorSynthesis
namespace Configuration

variable {config : Configuration} {table later : Table} {id : DeclarationId}

/-- Where the annotation comes from shows in a trace and in nothing else. -/
theorem examineTrackable_independent (config : Configuration) (id : DeclarationId)
    (declaration origin other : Declaration) :
    (config.examineTrackable id declaration other).1
        = (config.examineTrackable id declaration origin).1 ∧
      Event.findings (config.examineTrackable id declaration other).2
        = Event.findings (config.examineTrackable id declaration origin).2 := by
  unfold examineTrackable
  cases declaration.restriction? config.mark with
  | some diagnostic =>
      exact ⟨rfl, rfl⟩
  | none =>
      cases declaration.members.find? config.accessorName with
      | some member =>
          exact ⟨rfl, rfl⟩
      | none =>
          refine ⟨rfl, ?_⟩
          simp only [Event.findings_append, Event.findings_map_log, Event.findings_trace]

theorem examine_independent (hsame : table.SameAt later id)
    (houtlines : Table.SameOutlines config.mark table later) :
    (config.examine later id).1 = (config.examine table id).1 ∧
      Event.findings (config.examine later id).2 = Event.findings (config.examine table id).2 := by
  have hinherits : later.Inherits id config.mark ↔ table.Inherits id config.mark :=
    houtlines.inherits_iff
  unfold examine
  rw [hsame.accessor?, hsame.isRejected, hsame.get?]
  -- The carriers may differ, but there is one in both tables or in neither.
  cases htable : table.carrier? id config.mark with
  | none =>
      have hnot := mt hinherits.1 (Table.carrier?_eq_none_iff.1 htable)
      rw [Table.carrier?_eq_none_iff.2 hnot]
      exact ⟨rfl, rfl⟩
  | some carrier =>
      cases hlater : later.carrier? id config.mark with
      | none =>
          have hnot := mt hinherits.2 (Table.carrier?_eq_none_iff.1 hlater)
          rw [Table.carrier?_eq_none_iff.2 hnot] at htable
          cases htable
      | some found =>
          split
          · exact ⟨rfl, rfl⟩
          · split
            · exact ⟨rfl, rfl⟩
            · split
              · exact ⟨rfl, rfl⟩
              · split
                · exact ⟨rfl, rfl⟩
                · exact config.examineTrackable_independent id _ carrier.2 found.2

/-- What becomes of a declaration, and what is found, is the same in every table that says the same
of it and in which the others have the same outlines. -/
theorem synthesize_independent (hsame : table.SameAt later id)
    (houtlines : Table.SameOutlines config.mark table later) :
    (config.synthesize later id).accessor = (config.synthesize table id).accessor ∧
      (config.synthesize later id).table.isRejected id
        = (config.synthesize table id).table.isRejected id ∧
      Event.findings (config.synthesize later id).events
        = Event.findings (config.synthesize table id).events := by
  rcases examine_independent hsame houtlines with ⟨hverdict, hfindings⟩
  rcases synthesize_of_verdict hsame hverdict with ⟨htable, haccessor⟩
  refine ⟨haccessor, htable.isRejected, ?_⟩
  rw [events_synthesize, events_synthesize, hfindings]

/-- A class below an ancestor. -/
def belowAncestor (ancestor : Declaration) : Table :=
  ⟨#[ancestor, ⟨⟨"a.Leaf"⟩, .plainClass, false, false, [], some 0, [], .empty, some ⟨0, 4, 0⟩⟩], ∅, ∅⟩

/-- An open class whose annotation gives a text. -/
def titledBase : Declaration :=
  ⟨⟨"a.Base"⟩, .plainClass, true, false,
    [(Mark.ofName standard.mark).withArgument standard.overrideKey (.text "home")], none, [], .empty,
    none⟩

/-- A wrapper whose annotation gives a number, with another annotation and a member. -/
def numberedWrapper : Declaration :=
  ⟨⟨"b.Wrapper"⟩, .wrapper, false, false,
    [.ofName ⟨"b.Other"⟩,
      (Mark.ofName standard.mark).withArgument standard.overrideKey (.integer 7)], none, [],
    ⟨[("track", ⟨.ofList [.pub], ⟨"kotlin.Int"⟩, none⟩)]⟩, some ⟨0, 9, 2⟩⟩

theorem synthesize_belowAncestor :
    (standard.synthesize (belowAncestor numberedWrapper) 1).accessor
        = (standard.synthesize (belowAncestor titledBase) 1).accessor ∧
      ((standard.synthesize (belowAncestor titledBase) 1).accessor.map Accessor.literal)
        = some "Leaf" ∧
      (standard.synthesize (belowAncestor numberedWrapper) 1).table.isRejected 1 = false ∧
      Event.findings (standard.synthesize (belowAncestor numberedWrapper) 1).events = [] := by
  have hsame : (belowAncestor titledBase).SameAt (belowAncestor numberedWrapper) 1 :=
    ⟨rfl, rfl, rfl⟩
  have houtlines : Table.SameOutlines standard.mark (belowAncestor titledBase)
      (belowAncestor numberedWrapper) := by decide
  rcases synthesize_independent hsame houtlines with ⟨haccessor, hrejected, hfindings⟩
  refine ⟨haccessor, by cbv, ?_, ?_⟩
  · rw [hrejected]
    cbv
  · rw [hfindings]
    cbv

end Configuration
end AccessorSynthesis
