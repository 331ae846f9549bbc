import AccessorSynthesis.Compilation.Basic

/-!
# Transcripts — who said what

A resolution keeps what was said in one list, whoever said it.  This file defines

* `Transcript` — a table with what was said so far, and which extension said it;
* `Transcript.visit` to `Transcript.passes` — the steps of a resolution, with notes;
* `Transcript.saidBy transcript place` — what the extension at that place said;
* `Table.transcript table registry passes` — the resolution of a table, with notes.

The notes change nothing: without them there is the resolution (`Table.resolution_transcript`).
-/

namespace AccessorSynthesis

/-- A table with what was said so far and by which extension, which is known by its place in the
registry. -/
structure Transcript where
  table : Table
  entries : List (Nat × Event)

namespace Transcript

/-- Has the extension at a place visit a declaration. -/
def visit (transcript : Transcript) (id : DeclarationId) (place : ResolveExtension × Nat) :
    Transcript :=
  let (table, events) := place.1 transcript.table id
  ⟨table, transcript.entries ++ events.map fun event => (place.2, event)⟩

/-- Has all extensions visit a declaration, in order. -/
def visitAll (transcript : Transcript) (registry : Registry) (id : DeclarationId) : Transcript :=
  registry.resolve.zipIdx.foldl (fun transcript place => transcript.visit id place) transcript

/-- One visit of every declaration, in order. -/
def pass (transcript : Transcript) (registry : Registry) (ids : List DeclarationId) : Transcript :=
  ids.foldl (fun transcript id => transcript.visitAll registry id) transcript

/-- As many visits of every declaration as asked for. -/
def passes (transcript : Transcript) (registry : Registry) (ids : List DeclarationId) :
    Nat → Transcript
  | 0 => transcript
  | count + 1 => (transcript.pass registry ids).passes registry ids count

/-- The resolution, without the notes. -/
def resolution (transcript : Transcript) : Resolution :=
  ⟨transcript.table, transcript.entries.map Prod.snd⟩

/-- What the extension at the place said. -/
def saidBy (transcript : Transcript) (place : Nat) : List Event :=
  (transcript.entries.filter (·.1 = place)).map Prod.snd

theorem resolution_visit (transcript : Transcript) (id : DeclarationId)
    (place : ResolveExtension × Nat) :
    (transcript.visit id place).resolution = transcript.resolution.visit id place.1 := by
  unfold resolution visit Resolution.visit
  rw [List.map_append, List.map_map]
  exact congrArg (fun said => Resolution.mk _ (_ ++ said)) (List.map_id _)

theorem resolution_visitAll (transcript : Transcript) (registry : Registry) (id : DeclarationId) :
    (transcript.visitAll registry id).resolution = transcript.resolution.visitAll registry id := by
  unfold visitAll Resolution.visitAll
  generalize 0 = first
  induction registry.resolve generalizing transcript first with
  | nil =>
      rfl
  | cons extension rest ih =>
      rw [List.zipIdx_cons, List.foldl_cons, List.foldl_cons, ih, resolution_visit]

theorem resolution_pass (transcript : Transcript) (registry : Registry) (ids : List DeclarationId) :
    (transcript.pass registry ids).resolution = transcript.resolution.pass registry ids := by
  induction ids generalizing transcript with
  | nil =>
      rfl
  | cons id ids ih =>
      exact (ih (transcript.visitAll registry id)).trans
        (congrArg (Resolution.pass · registry ids) (transcript.resolution_visitAll registry id))

theorem resolution_passes (transcript : Transcript) (registry : Registry)
    (ids : List DeclarationId) (count : Nat) :
    (transcript.passes registry ids count).resolution
      = transcript.resolution.passes registry ids count := by
  induction count generalizing transcript with
  | zero =>
      rfl
  | succ count ih =>
      exact (ih (transcript.pass registry ids)).trans
        (congrArg (Resolution.passes · registry ids count) (transcript.resolution_pass registry ids))

theorem saidBy_visit (transcript : Transcript) (id : DeclarationId)
    (place : ResolveExtension × Nat) (asked : Nat) :
    (transcript.visit id place).saidBy asked = transcript.saidBy asked
      ++ if place.2 = asked then (place.1 transcript.table id).2 else [] := by
  unfold saidBy visit
  rw [List.filter_append, List.map_append]
  by_cases hplace : place.2 = asked
  · simp [hplace, List.filter_map, Function.comp_def]
  · simp [hplace]

end Transcript

/-- The resolution of a table, with notes. -/
def Table.transcript (table : Table) (registry : Registry) (passes : Nat) : Transcript :=
  Transcript.passes ⟨table, []⟩ registry (table.compiled.map Prod.fst) passes

theorem Table.resolution_transcript (table : Table) (registry : Registry) (passes : Nat) :
    (table.transcript registry passes).resolution = table.resolve registry passes :=
  Transcript.resolution_passes ⟨table, []⟩ registry (table.compiled.map Prod.fst) passes

end AccessorSynthesis
