import Mathlib
import AccessorSynthesis.Proofs.Synthesis.Visit

/-!
# Order — visits in any order come to the same

This file defines

* `Synthesis.SameAt visit other id` — both visits came to the same, so far as the declaration goes;
* `Answer` — what one visit returned and said, and which declaration it was about;
* `Configuration.visits config table ids` — the table after visits in that order, and their answers.

A visit reads of its own declaration whatever the table says, and of others no more than headers
(`examine_eq`).  It changes its own declaration alone, and no headers.  What becomes of a
declaration is therefore the same without the visits of others (`visits_at`), and what remains of a
list of visits then is only how often the declaration comes in it (`visits_perm`).
-/

namespace AccessorSynthesis

/-- Both visits came to the same, so far as the declaration goes. -/
structure Synthesis.SameAt (visit other : Synthesis) (id : DeclarationId) : Prop where
  table : visit.table.SameAt other.table id
  accessor : other.accessor = visit.accessor
  events : other.events = visit.events

/-- What one visit of a declaration returned and said. -/
structure Answer where
  id : DeclarationId
  accessor : Option Accessor
  events : List Event

namespace Configuration

variable {config : Configuration} {table later : Table} {id : DeclarationId}

/-! ## What a visit depends on -/

theorem examineTrackable_eq {declaration origin other : Declaration}
    (h : other.name = origin.name) :
    config.examineTrackable id declaration other
      = config.examineTrackable id declaration origin := by
  unfold examineTrackable
  rw [h]

theorem examine_eq (hsame : table.SameAt later id) (hheaders : table.SameHeaders later) :
    config.examine later id = config.examine table id := by
  have hcarrier := hheaders.map_carrier?_eq id config.mark
  unfold examine
  rw [hsame.accessor?, hsame.isRejected, hsame.get?]
  -- Of the carrier, no more than the name is told.
  cases htable : table.carrier? id config.mark with
  | none =>
      rw [htable] at hcarrier
      rw [Option.map_eq_none_iff.1 hcarrier]
  | some found =>
      rw [htable] at hcarrier
      rcases Option.map_eq_some_iff.1 hcarrier with ⟨other, hother, hname⟩
      rw [hother]
      simp only [examineTrackable_eq hname]

/-- What a visit says is decided before it brings the table up to date. -/
theorem events_synthesize (config : Configuration) (table : Table) (id : DeclarationId) :
    (config.synthesize table id).events = (config.examine table id).2 := by
  rcases hexamine : config.examine table id with ⟨verdict, events⟩
  cases verdict with
  | leave | keep _ | pass | refuse =>
      simp only [synthesize, hexamine]
  | grant accessor =>
      rcases exists_registered_of_grant hexamine with ⟨later, _, hlater, -, -, -⟩
      rw [synthesize_of_grant hexamine hlater]

/-- The same verdict has the same effect on the declaration. -/
theorem synthesize_of_verdict (hsame : table.SameAt later id)
    (hverdict : (config.examine later id).1 = (config.examine table id).1) :
    (config.synthesize table id).table.SameAt (config.synthesize later id).table id ∧
      (config.synthesize later id).accessor = (config.synthesize table id).accessor := by
  rcases htable : config.examine table id with ⟨verdict, events⟩
  rcases hlater : config.examine later id with ⟨verdict', events'⟩
  rw [htable, hlater] at hverdict
  cases hverdict
  cases verdict with
  | leave | keep _ | pass =>
      unfold synthesize
      rw [htable, hlater]
      exact ⟨hsame, rfl⟩
  | refuse =>
      rw [synthesize_of_refuse htable, synthesize_of_refuse hlater]
      exact ⟨hsame.reject_self, rfl⟩
  | grant accessor =>
      rcases exists_registered_of_grant htable with
        ⟨next, declaration, hnext, rfl, hunsettled, hregistered⟩
      rcases exists_registered_of_grant hlater with
        ⟨last, found, hlast, -, hunsettled', hregistered'⟩
      have hfound : some found = some declaration :=
        hunsettled'.get?.symm.trans (hsame.get?.trans hunsettled.get?)
      cases hfound
      rw [synthesize_of_grant htable hnext, synthesize_of_grant hlater hlast]
      exact ⟨hregistered.sameAt_owner hregistered' hsame, rfl⟩

theorem synthesize_sameAt (hsame : table.SameAt later id) (hheaders : table.SameHeaders later) :
    (config.synthesize table id).SameAt (config.synthesize later id) id := by
  have hlater : config.examine later id = config.examine table id := examine_eq hsame hheaders
  rcases synthesize_of_verdict hsame (congrArg Prod.fst hlater) with ⟨htable, haccessor⟩
  refine ⟨htable, haccessor, ?_⟩
  rw [events_synthesize, events_synthesize, hlater]

/-! ## Visits one after the other -/

/-- The table after visits in that order, and the answers to them. -/
def visits (config : Configuration) (table : Table) : List DeclarationId → Table × List Answer
  | [] => (table, [])
  | id :: ids =>
      let visit := config.synthesize table id
      let rest := config.visits visit.table ids
      (rest.1, ⟨id, visit.accessor, visit.events⟩ :: rest.2)

/-- What becomes of a declaration is the same without the visits of others. -/
theorem visits_at (config : Configuration) (hsame : table.SameAt later id)
    (hheaders : table.SameHeaders later) (ids : List DeclarationId) :
    (config.visits table ids).1.SameAt (config.visits later (ids.filter (· = id))).1 id ∧
      (config.visits table ids).2.filter (·.id = id)
        = (config.visits later (ids.filter (· = id))).2 := by
  induction ids generalizing table later with
  | nil =>
      exact ⟨hsame, rfl⟩
  | cons first ids ih =>
      have hvisited := config.visited_synthesize table first
      by_cases hfirst : first = id
      case neg =>
        have hanswers := ih ((hvisited.sameAt (Ne.symm hfirst)).symm.trans hsame)
          (hvisited.sameHeaders.symm.trans hheaders)
        simpa [visits, hfirst] using hanswers
      subst hfirst
      have hvisited' := config.visited_synthesize later first
      have hvisit : (config.synthesize table first).SameAt (config.synthesize later first) first :=
        synthesize_sameAt hsame hheaders
      have hanswers := ih hvisit.table
        (hvisited.sameHeaders.symm.trans (hheaders.trans hvisited'.sameHeaders))
      simpa [visits, hvisit.accessor, hvisit.events] using hanswers

/-- Visits in whatever order leave the same table, and the answers about each declaration are the
same in the same order. -/
theorem visits_perm (config : Configuration) (table : Table) {ids others : List DeclarationId}
    (h : ids.Perm others) :
    (config.visits table ids).1 = (config.visits table others).1 ∧
      ∀ id, (config.visits table ids).2.filter (·.id = id)
        = (config.visits table others).2.filter (·.id = id) := by
  have halone : ∀ id, ids.filter (· = id) = others.filter (· = id) := by
    intro id
    rw [List.filter_eq, List.filter_eq, h.count_eq]
  have hids := fun id => config.visits_at (.refl table id) (.refl table) ids
  have hothers := fun id => config.visits_at (.refl table id) (.refl table) others
  constructor
  · apply Table.eq_of_sameAt
    intro id
    have hsame := (hids id).1
    rw [halone] at hsame
    exact (hothers id).1.trans hsame.symm
  · intro id
    rw [(hids id).2, (hothers id).2, halone]

/-- A wrapper that carries the annotation, and a class below it. -/
def wrapperAndClass : Table :=
  ⟨#[⟨⟨"a.W"⟩, .wrapper, false, false, [.ofName standard.mark], none, [], .empty, some ⟨0, 3, 0⟩⟩,
      ⟨⟨"a.C"⟩, .plainClass, false, false, [], some 0, [], .empty, none⟩], ∅, ∅⟩

theorem visits_wrapperAndClass :
    (standard.visits wrapperAndClass [0, 1, 0, 5]).1
        = (standard.visits wrapperAndClass [5, 1, 0, 0]).1 ∧
      (∀ id, (standard.visits wrapperAndClass [0, 1, 0, 5]).2.filter (·.id = id)
        = (standard.visits wrapperAndClass [5, 1, 0, 0]).2.filter (·.id = id)) ∧
      (standard.visits wrapperAndClass [0, 1, 0, 5]).1.isRejected 0 = true ∧
      ((standard.visits wrapperAndClass [0, 1, 0, 5]).1.accessor? 1).isSome = true := by
  have hperm : [0, 1, 0, 5].Perm [5, 1, 0, 0] := by decide
  have hsame := visits_perm standard wrapperAndClass hperm
  exact ⟨hsame.1, hsame.2, by cbv, by cbv⟩

end Configuration
end AccessorSynthesis
