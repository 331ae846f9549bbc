import Mathlib.Data.List.Nodup
import Mathlib.Data.List.Perm.Subperm
import AccessorSynthesis.Proofs.Declaration.Hierarchy

/-!
# BreadthFirst — the walk over supertypes, level by level

In the queue of the walk, numbers wait that were met already, that come twice or that have no
declaration.  Here the same declarations are listed without a queue.  This file defines

* `Table.Drains table visited queue found` — the queue runs empty and meets `found` on the way;
* `Table.level table id k`, `Table.before table id k` — the supertypes `k` levels up, and all levels
  below these;
* `Table.ReachesIn table id steps other`, `Table.IsDistance table id other steps` — paths of a
  length, and the length of the shortest ones;
* `Table.BreadthFirst table id found` — `found` lists the levels one after the other.

A queue that starts with a whole level goes on with the next one (`walk_append`), so that the walk
lists the levels (`ancestors_eq_before`), and these are told apart by distance (`mem_level_iff`).
-/

namespace AccessorSynthesis
namespace Table

open Relation (ReflTransGen)

variable {table : Table} {id other : DeclarationId} {listed queue : List DeclarationId}
variable {k m n : Nat}

/-! ## The queue -/

/-- The queue runs empty, and the declarations that it meets on the way are those of `found`.  A number
counts as visited from when it leaves the queue, whether it has a declaration or not. -/
inductive Drains (table : Table) :
    (visited queue found : List DeclarationId) → Prop where
  | empty {visited : List DeclarationId} : Drains table visited [] []
  | again {visited queue found : List DeclarationId} {id : DeclarationId} (hvisited : id ∈ visited)
      (hrest : Drains table visited queue found) : Drains table visited (id :: queue) found
  | missing {visited queue found : List DeclarationId} {id : DeclarationId} (hnew : id ∉ visited)
      (hget : table.get? id = none) (hrest : Drains table (id :: visited) queue found) :
      Drains table visited (id :: queue) found
  | met {visited queue found : List DeclarationId} {id : DeclarationId} {declaration : Declaration}
      (hnew : id ∉ visited) (hget : table.get? id = some declaration)
      (hrest : Drains table (id :: visited) (queue ++ declaration.supertypes) found) :
      Drains table visited (id :: queue) (id :: found)

theorem drains_walk (unvisited : Std.ExtTreeSet DeclarationId) (queue : List DeclarationId) :
    ∀ visited, (∀ x, x ∈ unvisited ↔ (table.get? x).isSome = true ∧ x ∉ visited) →
      table.Drains visited queue (table.walk unvisited queue) := by
  fun_induction walk table unvisited queue with
  | case1 unvisited =>
      intro visited _
      exact .empty
  | case2 unvisited id queue hpresent supertypes ih =>
      intro visited h
      rcases (h id).1 hpresent with ⟨hexists, hnew⟩
      rcases Option.isSome_iff_exists.1 hexists with ⟨declaration, hget⟩
      have hsupertypes : supertypes = declaration.supertypes := by simp [supertypes, hget]
      rw [hsupertypes] at ih ⊢
      refine .met hnew hget (ih (id :: visited) ?_)
      intro x
      simp only [Std.ExtTreeSet.mem_erase, h x, List.mem_cons]
      grind
  | case3 unvisited id queue habsent ih =>
      intro visited h
      -- What is not among the unvisited declarations was visited before, or is no declaration.
      by_cases hvisited : id ∈ visited
      · exact .again hvisited (ih visited h)
      · have hget : table.get? id = none := by
          simpa [h id, hvisited] using habsent
        refine .missing hvisited hget (ih (id :: visited) ?_)
        intro x
        rw [h x]
        grind

/-! ## Levels -/

/-- The direct supertypes of a declaration, the superclass first; none if it does not exist. -/
def supertypesOf (table : Table) (id : DeclarationId) : List DeclarationId :=
  ((table.get? id).map Declaration.supertypes).getD []

/-- What candidates add to a list: those that exist and are not listed yet, each of them where it
comes first. -/
def additions (table : Table) (listed candidates : List DeclarationId) : List DeclarationId :=
  (candidates.filter fun other => (table.get? other).isSome && !listed.contains other).eraseDups

mutual

/-- The declarations of a level.  Level zero is the declaration itself; the next level adds the
supertypes of a level to what is listed up to there. -/
def level (table : Table) (id : DeclarationId) : Nat → List DeclarationId
  | 0 => table.additions [] [id]
  | k + 1 => table.additions (table.before id k ++ table.level id k)
      ((table.level id k).flatMap table.supertypesOf)

/-- The declarations of all levels before a level, in order. -/
def before (table : Table) (id : DeclarationId) : Nat → List DeclarationId
  | 0 => []
  | k + 1 => table.before id k ++ table.level id k

end

/-- What a level is chosen from. -/
def candidates (table : Table) (id : DeclarationId) : Nat → List DeclarationId
  | 0 => [id]
  | k + 1 => (table.level id k).flatMap table.supertypesOf

theorem level_eq (table : Table) (id : DeclarationId) (k : Nat) :
    table.level id k = table.additions (table.before id k) (table.candidates id k) := by
  cases k with
  | zero => simp [level, before, candidates]
  | succ k => simp [level, before, candidates]

theorem before_succ (table : Table) (id : DeclarationId) (k : Nat) :
    table.before id (k + 1) = table.before id k ++ table.level id k := by
  simp [before]

theorem mem_additions_iff {candidates : List DeclarationId} :
    other ∈ table.additions listed candidates ↔
      other ∈ candidates ∧ (table.get? other).isSome = true ∧ other ∉ listed := by
  simp [additions]

theorem additions_cons_of_new (hexists : (table.get? id).isSome = true) (hnew : id ∉ listed)
    (rest : List DeclarationId) :
    table.additions listed (id :: rest) = id :: table.additions (listed ++ [id]) rest := by
  have hrest : ∀ x ∈ rest, ((!(x == id)) && ((table.get? x).isSome && !listed.contains x))
      = ((table.get? x).isSome && !(listed ++ [id]).contains x) := by
    intro x _
    simp only [List.contains_eq_mem, List.mem_append, List.mem_singleton]
    grind
  unfold additions
  rw [List.filter_cons_of_pos (by simp [hexists, hnew]), List.eraseDups_cons, List.filter_filter,
    List.filter_congr hrest]

theorem additions_cons_of_not (h : ¬((table.get? id).isSome = true ∧ id ∉ listed))
    (rest : List DeclarationId) :
    table.additions listed (id :: rest) = table.additions listed rest := by
  unfold additions
  rw [List.filter_cons_of_neg (by simpa using h)]

theorem nodup_additions (listed candidates : List DeclarationId) :
    (table.additions listed candidates).Nodup := by
  induction candidates generalizing listed with
  | nil =>
      simp [additions]
  | cons id rest ih =>
      by_cases hnew : (table.get? id).isSome = true ∧ id ∉ listed
      · rw [additions_cons_of_new hnew.1 hnew.2, List.nodup_cons]
        refine ⟨?_, ih (listed ++ [id])⟩
        simp [mem_additions_iff]
      · rw [additions_cons_of_not hnew]
        exact ih listed

/-! ## The walk, one level after the other -/

/-- The declarations that are not listed yet. -/
def unlisted (table : Table) (listed : List DeclarationId) : Std.ExtTreeSet DeclarationId :=
  .ofList ((List.range table.size).filter fun other => !listed.contains other)

theorem mem_unlisted_iff :
    other ∈ table.unlisted listed ↔ (table.get? other).isSome = true ∧ other ∉ listed := by
  simp [unlisted, get?, size]

theorem unlisted_nil (table : Table) : table.unlisted [] = table.ids := by
  apply Std.ExtTreeSet.ext_mem
  intro other
  simp [mem_unlisted_iff, mem_ids_iff]

theorem erase_unlisted (table : Table) (listed : List DeclarationId) (id : DeclarationId) :
    (table.unlisted listed).erase id = table.unlisted (listed ++ [id]) := by
  apply Std.ExtTreeSet.ext_mem
  intro other
  simp only [Std.ExtTreeSet.mem_erase, mem_unlisted_iff, List.mem_append, List.mem_singleton]
  grind

theorem walk_cons_of_mem {unvisited : Std.ExtTreeSet DeclarationId} (h : id ∈ unvisited) :
    table.walk unvisited (id :: queue)
      = id :: table.walk (unvisited.erase id) (queue ++ table.supertypesOf id) := by
  rw [walk, dif_pos h]
  rfl

theorem walk_cons_of_not_mem {unvisited : Std.ExtTreeSet DeclarationId} (h : id ∉ unvisited) :
    table.walk unvisited (id :: queue) = table.walk unvisited queue := by
  rw [walk, dif_neg h]

/-- The walk meets what the front of its queue adds.  By then it has put the supertypes of these
declarations, in order, behind the rest of the queue. -/
theorem walk_append (table : Table) (front listed queue : List DeclarationId) :
    table.walk (table.unlisted listed) (front ++ queue)
      = table.additions listed front ++ table.walk
          (table.unlisted (listed ++ table.additions listed front))
          (queue ++ (table.additions listed front).flatMap table.supertypesOf) := by
  -- The induction is over the front: each number leaves the queue, and what it adds goes behind it.
  induction front generalizing listed queue with
  | nil =>
      simp [additions]
  | cons id front ih =>
      by_cases hpresent : id ∈ table.unlisted listed
      · rcases mem_unlisted_iff.1 hpresent with ⟨hexists, hnew⟩
        have hrest := ih (listed ++ [id]) (queue ++ table.supertypesOf id)
        simpa [walk_cons_of_mem hpresent, additions_cons_of_new hexists hnew, erase_unlisted]
          using hrest
      · rw [List.cons_append, walk_cons_of_not_mem hpresent,
          additions_cons_of_not (mt mem_unlisted_iff.2 hpresent)]
        exact ih listed queue

/-- The walk lists the levels up to one of them, and goes on with the next. -/
theorem ancestors_eq_append_walk (table : Table) (id : DeclarationId) (k : Nat) :
    table.ancestors id = table.before id k
      ++ table.walk (table.unlisted (table.before id k)) (table.candidates id k) := by
  induction k with
  | zero =>
      simp [ancestors, before, candidates, unlisted_nil]
  | succ k ih =>
      have hlevel := walk_append table (table.candidates id k) (table.before id k) []
      rw [← level_eq, List.append_nil, List.nil_append] at hlevel
      calc
        table.ancestors id
            = table.before id k ++ (table.level id k
                ++ table.walk (table.unlisted (table.before id k ++ table.level id k))
                    (table.candidates id (k + 1))) := by
              rw [ih, hlevel]
              rfl
        _ = table.before id (k + 1)
                ++ table.walk (table.unlisted (table.before id (k + 1)))
                    (table.candidates id (k + 1)) := by
              rw [before_succ, List.append_assoc]

/-! ## There are no more levels than declarations -/

theorem mem_level_iff_mem_candidates :
    other ∈ table.level id k ↔ other ∈ table.candidates id k ∧
      (table.get? other).isSome = true ∧ other ∉ table.before id k := by
  rw [level_eq, mem_additions_iff]

theorem mem_before_iff : other ∈ table.before id k ↔ ∃ j < k, other ∈ table.level id j := by
  induction k with
  | zero =>
      simp [before]
  | succ k ih =>
      rw [before_succ, List.mem_append, ih]
      constructor
      · rintro (⟨j, hj, hmem⟩ | hmem)
        · exact ⟨j, Nat.lt_succ_of_lt hj, hmem⟩
        · exact ⟨k, Nat.lt_succ_self k, hmem⟩
      · rintro ⟨j, hj, hmem⟩
        rcases Nat.lt_succ_iff_lt_or_eq.1 hj with hlt | rfl
        · exact Or.inl ⟨j, hlt, hmem⟩
        · exact Or.inr hmem

theorem nodup_before (table : Table) (id : DeclarationId) (k : Nat) :
    (table.before id k).Nodup := by
  induction k with
  | zero =>
      simp [before]
  | succ k ih =>
      have hlevel : (table.level id k).Nodup := by
        rw [level_eq]
        exact nodup_additions _ _
      rw [before_succ]
      refine ih.append hlevel ?_
      intro other hbefore hmem
      exact (mem_level_iff_mem_candidates.1 hmem).2.2 hbefore

theorem length_before_le (table : Table) (id : DeclarationId) (k : Nat) :
    (table.before id k).length ≤ table.size := by
  have hexisting : table.before id k ⊆ List.range table.size := by
    intro other hbefore
    rcases mem_before_iff.1 hbefore with ⟨j, _, hmem⟩
    have hexists := (mem_level_iff_mem_candidates.1 hmem).2.1
    simpa [get?, size] using hexists
  simpa using ((table.nodup_before id k).subperm hexisting).length_le

/-- Each level before one that is not empty has at least one declaration. -/
theorem lt_length_before (h : table.level id k ≠ []) : k < (table.before id (k + 1)).length := by
  rw [before_succ, List.length_append]
  have hlevel : 0 < (table.level id k).length := List.length_pos_iff.2 h
  induction k with
  | zero =>
      omega
  | succ k ih =>
      have hearlier : table.level id k ≠ [] := by
        intro hempty
        simp [level, hempty, additions] at h
      have hbefore := ih hearlier (List.length_pos_iff.2 hearlier)
      rw [before_succ, List.length_append]
      omega

theorem level_eq_nil (h : table.size ≤ k) : table.level id k = [] := by
  by_contra hlevel
  have hlt := lt_length_before hlevel
  have hle := table.length_before_le id (k + 1)
  omega

/-- The walk lists all levels. -/
theorem ancestors_eq_before (table : Table) (id : DeclarationId) :
    table.ancestors id = table.before id table.size := by
  have hlast : table.level id table.size = [] := level_eq_nil (Nat.le_refl table.size)
  have hwalk := table.ancestors_eq_append_walk id (table.size + 1)
  simpa [before_succ, candidates, hlast, walk] using hwalk

/-! ## Distances -/

/-- A path of so many edges leads from one number to the other. -/
inductive ReachesIn (table : Table) (id : DeclarationId) : Nat → DeclarationId → Prop where
  | self : ReachesIn table id 0 id
  | step {steps : Nat} {middle other : DeclarationId} (hpath : ReachesIn table id steps middle)
      (hedge : table.HasSupertype middle other) : ReachesIn table id (steps + 1) other

/-- The shortest path from one number to the other has so many edges. -/
structure IsDistance (table : Table) (id other : DeclarationId) (steps : Nat) : Prop where
  reaches : table.ReachesIn id steps other
  least : ∀ n, table.ReachesIn id n other → steps ≤ n

theorem mem_supertypesOf_iff :
    other ∈ table.supertypesOf id ↔ table.HasSupertype id other :=
  mem_supertypes_iff

theorem reachesIn_of_mem_level (h : other ∈ table.level id k) : table.ReachesIn id k other := by
  induction k generalizing other with
  | zero =>
      have hself := (mem_level_iff_mem_candidates.1 h).1
      rw [List.mem_singleton.1 hself]
      exact .self
  | succ k ih =>
      have hcandidate := (mem_level_iff_mem_candidates.1 h).1
      rcases List.mem_flatMap.1 hcandidate with ⟨middle, hmiddle, hedge⟩
      exact .step (ih hmiddle) (mem_supertypesOf_iff.1 hedge)

/-- A candidate that exists is listed with its level, if not before. -/
theorem exists_level_of_mem_candidates (h : other ∈ table.candidates id k)
    (hexists : (table.get? other).isSome = true) : ∃ j ≤ k, other ∈ table.level id j := by
  by_cases hbefore : other ∈ table.before id k
  · rcases mem_before_iff.1 hbefore with ⟨j, hj, hmem⟩
    exact ⟨j, Nat.le_of_lt hj, hmem⟩
  · exact ⟨k, Nat.le_refl k, mem_level_iff_mem_candidates.2 ⟨h, hexists, hbefore⟩⟩

/-- A path leads to no higher level than it has edges. -/
theorem exists_level_of_reachesIn (h : table.ReachesIn id n other)
    (hexists : (table.get? other).isSome = true) : ∃ k ≤ n, other ∈ table.level id k := by
  induction h with
  | self =>
      exact exists_level_of_mem_candidates (k := 0) (List.mem_singleton_self id) hexists
  | @step steps middle other _ hedge ih =>
      -- The last edge leaves a declaration, which is thus listed on some level itself.
      have hmiddle : (table.get? middle).isSome = true := by
        rcases hedge with ⟨declaration, hget, _⟩
        simp [hget]
      rcases ih hmiddle with ⟨k, hk, hmem⟩
      have hcandidate : other ∈ table.candidates id (k + 1) :=
        List.mem_flatMap.2 ⟨middle, hmem, mem_supertypesOf_iff.2 hedge⟩
      rcases exists_level_of_mem_candidates hcandidate hexists with ⟨j, hj, hlevel⟩
      exact ⟨j, by omega, hlevel⟩

theorem mem_level_iff : other ∈ table.level id k ↔
    (table.get? other).isSome = true ∧ table.IsDistance id other k := by
  constructor
  · intro h
    rcases mem_level_iff_mem_candidates.1 h with ⟨_, hexists, hnew⟩
    refine ⟨hexists, reachesIn_of_mem_level h, ?_⟩
    intro n hpath
    by_contra hshorter
    rcases exists_level_of_reachesIn hpath hexists with ⟨j, hj, hmem⟩
    exact hnew (mem_before_iff.2 ⟨j, by omega, hmem⟩)
  · rintro ⟨hexists, hdistance⟩
    rcases exists_level_of_reachesIn hdistance.reaches hexists with ⟨j, hj, hmem⟩
    have hle := hdistance.least j (reachesIn_of_mem_level hmem)
    have hsame : j = k := by omega
    exact hsame ▸ hmem

/-- The first of two declarations is no farther away than the second. -/
def IsNoFarther (table : Table) (id first second : DeclarationId) : Prop :=
  ∃ near far, table.IsDistance id first near ∧ table.IsDistance id second far ∧ near ≤ far

theorem pairwise_before (table : Table) (id : DeclarationId) (k : Nat) :
    (table.before id k).Pairwise (table.IsNoFarther id) := by
  induction k with
  | zero =>
      simp [before]
  | succ k ih =>
      rw [before_succ, List.pairwise_append]
      refine ⟨ih, ?_, ?_⟩
      · apply List.pairwise_of_forall_mem_list
        intro first hfirst second hsecond
        exact ⟨k, k, (mem_level_iff.1 hfirst).2, (mem_level_iff.1 hsecond).2, Nat.le_refl k⟩
      · intro first hfirst second hsecond
        rcases mem_before_iff.1 hfirst with ⟨j, hj, hmem⟩
        exact ⟨j, k, (mem_level_iff.1 hmem).2, (mem_level_iff.1 hsecond).2, Nat.le_of_lt hj⟩

theorem pairwise_ancestors (table : Table) (id : DeclarationId) :
    (table.ancestors id).Pairwise (table.IsNoFarther id) := by
  rw [ancestors_eq_before]
  exact table.pairwise_before id table.size

theorem exists_level_of_mem_ancestors (h : other ∈ table.ancestors id) :
    ∃ k, other ∈ table.level id k := by
  rw [ancestors_eq_before] at h
  rcases mem_before_iff.1 h with ⟨k, _, hmem⟩
  exact ⟨k, hmem⟩

theorem mem_ancestors_iff : other ∈ table.ancestors id ↔
    (table.get? other).isSome = true ∧ ReflTransGen table.HasSupertype id other := by
  constructor
  · intro h
    rcases exists_level_of_mem_ancestors h with ⟨k, hmem⟩
    exact ⟨(mem_level_iff.1 hmem).1, reaches_of_mem_ancestors h⟩
  · rintro ⟨hexists, hreaches⟩
    exact mem_ancestors_of_reaches hreaches hexists

/-! ## Breadth-first lists -/

/-- The list is what a queue of supertypes meets, and what the levels are one after the other: the
declarations that are reached, each once and the nearer ones first. -/
structure BreadthFirst (table : Table) (id : DeclarationId) (found : List DeclarationId) : Prop where
  drains : table.Drains [] [id] found
  levels : found = table.before id table.size
  ends : ∀ k, table.size ≤ k → table.level id k = []
  reached : ∀ other, other ∈ found ↔
    (table.get? other).isSome = true ∧ ReflTransGen table.HasSupertype id other
  nodup : found.Nodup
  nearer : found.Pairwise (table.IsNoFarther id)

/-- The walk over supertypes is a breadth-first search, whatever the supertypes are. -/
theorem breadthFirst_ancestors (table : Table) (id : DeclarationId) :
    table.BreadthFirst id (table.ancestors id) where
  drains := by
    refine drains_walk table.ids [id] [] ?_
    intro other
    simp [mem_ids_iff]
  levels := table.ancestors_eq_before id
  ends := fun _ => level_eq_nil
  reached := fun _ => mem_ancestors_iff
  nodup := by
    rw [ancestors_eq_before]
    exact table.nodup_before id table.size
  nearer := table.pairwise_ancestors id

/-- A class of which only its name and its supertypes are given. -/
def bare (name : String) (superclass : Option DeclarationId) (interfaces : List DeclarationId) :
    Declaration :=
  ⟨⟨name⟩, .plainClass, true, false, [], superclass, interfaces, .empty, none⟩

/-- A diamond whose top leads back to its bottom, with supertypes that are named twice, that are the
declaration itself, or that do not exist. -/
def tangled : Table :=
  ⟨#[bare "Leaf" (some 2) [1, 2, 9], bare "Left" none [3, 1], bare "Right" (some 3) [],
    bare "Root" (some 0) []], ∅, ∅⟩

example : (List.range 4).map (tangled.level 0) = [[0], [2, 1], [3], []] := by
  decide

example : tangled.ancestors 0 = [0, 2, 1, 3] := by
  rw [ancestors_eq_before]
  decide

end Table
end AccessorSynthesis
