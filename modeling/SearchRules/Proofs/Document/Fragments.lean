import Mathlib.Data.List.Perm.Basic
import SearchRules.Document
import SearchRules.Proofs.OrderedMap.LastWrite

/-!
# Documents as clauses with fragments

A document is told by two views: its clauses in order, and the fragments under
each clause, none where a clause is missing (`Document.ext_fragments`). In these
views a run of appended fragments has a closed form.

> `keys_pushMany`: a clause that is new goes to the end, once.
>
> `fragments_pushMany`: every clause gains what was appended to it, in order.

The fragments of the whole document are those of the four clauses
(`values_flatten_perm`), in whatever order the clauses stand.
-/

namespace SearchRules.Document

/-- The fragments under a clause, none if it is not there. -/
def fragments (d : Document) (c : Clause) : List Json := (d.get? c).getD []

theorem isSome_get?_iff (d : Document) (c : Clause) :
    (d.get? c).isSome = true ↔ c ∈ d.clauses.keys :=
  d.clauses.isSome_get?_iff c

theorem get?_eq_some_fragments {d : Document} {c : Clause} (h : c ∈ d.clauses.keys) :
    d.get? c = some (d.fragments c) := by
  obtain ⟨fs, hget⟩ := Option.isSome_iff_exists.1 ((isSome_get?_iff d c).2 h)
  rw [fragments, hget]
  rfl

theorem get?_eq_none {d : Document} {c : Clause} (h : c ∉ d.clauses.keys) :
    d.get? c = none := by
  rw [← isSome_get?_iff, Bool.not_eq_true, Option.isSome_eq_false_iff, Option.isNone_iff_eq_none] at h
  exact h

theorem fragments_eq_nil {d : Document} {c : Clause} (h : c ∉ d.clauses.keys) :
    d.fragments c = [] := by
  rw [fragments, get?_eq_none h]
  rfl

/-- Two documents with the same clauses in the same order and the same fragments
under each are one document. -/
theorem ext_fragments {d e : Document} (hkeys : d.clauses.keys = e.clauses.keys)
    (h : ∀ c, d.fragments c = e.fragments c) : d = e := by
  have hget : ∀ c, d.get? c = e.get? c := by
    intro c
    by_cases hc : c ∈ d.clauses.keys
    · rw [get?_eq_some_fragments hc, get?_eq_some_fragments (hkeys ▸ hc), h c]
    · rw [get?_eq_none hc, get?_eq_none (hkeys ▸ hc)]
  exact congrArg Document.mk (OrderedMap.ext_get? hkeys hget)

theorem entries_eq_map_keys (d : Document) :
    d.clauses.entries = d.clauses.keys.map fun c => (c, d.fragments c) := by
  have hfind : ∀ c ∈ d.clauses.keys,
      ((d.clauses.get? c).map fun fs => (c, fs)) = some (c, d.fragments c) := by
    intro c hc
    rw [show d.clauses.get? c = some (d.fragments c) from get?_eq_some_fragments hc]
    rfl
  rw [d.clauses.entries_eq_filterMap_keys, List.filterMap_congr hfind]
  exact congrFun List.filterMap_eq_map' d.clauses.keys

/-- A clause keeps its place, and a new one is the last. -/
theorem keys_push (d : Document) (c : Clause) (fragment : Json) :
    (d.push c fragment).clauses.keys =
      if c ∈ d.clauses.keys then d.clauses.keys else d.clauses.keys ++ [c] :=
  keys_set d c _

theorem fragments_set (d : Document) (c c' : Clause) (fs : List Json) :
    (d.set c fs).fragments c' = if c' = c then fs else d.fragments c' := by
  unfold fragments
  rw [get?_set]
  split <;> rfl

/-- A push adds one fragment at the end of its clause. -/
theorem fragments_push (d : Document) (c c' : Clause) (fragment : Json) :
    (d.push c fragment).fragments c' =
      d.fragments c' ++ if c' = c then [fragment] else [] := by
  rw [push, fragments_set]
  by_cases h : c' = c
  · rw [if_pos h, if_pos h, h]
    rfl
  · rw [if_neg h, if_neg h, List.append_nil]

/-- Append fragments one after the other, each under its clause. -/
def pushMany (d : Document) (pushes : List (Clause × Json)) : Document :=
  pushes.foldl (fun d p => d.push p.1 p.2) d

theorem pushMany_concat (d : Document) (pushes : List (Clause × Json)) (p : Clause × Json) :
    d.pushMany (pushes ++ [p]) = (d.pushMany pushes).push p.1 p.2 := List.foldl_append

/-- Pushes put new clauses at the end, in the order in which they first occur. -/
theorem keys_pushMany (d : Document) (pushes : List (Clause × Json)) :
    (d.pushMany pushes).clauses.keys =
      (d.clauses.keys ++ pushes.map Prod.fst).eraseDups :=
  keys_foldl (fun d => d.clauses.keys_nodup) (fun d p => d.keys_push p.1 p.2) d pushes

/-- Each clause takes the pushes that are for it, in their order. -/
theorem fragments_pushMany (d : Document) (pushes : List (Clause × Json)) (c : Clause) :
    (d.pushMany pushes).fragments c =
      d.fragments c ++ (pushes.filter fun p => p.1 = c).map Prod.snd := by
  -- on the pushes from their end: the last one is appended
  induction pushes using List.reverseRecOn with
  | nil => exact (List.append_nil _).symm
  | append_singleton pushes p ih =>
    have hlast : ([p].filter fun p => p.1 = c).map Prod.snd = if c = p.1 then [p.2] else [] := by
      by_cases h : p.1 = c
      · simp [h]
      · simp [h, Ne.symm h]
    rw [pushMany_concat, fragments_push, ih, List.filter_append, List.map_append, hlast,
      List.append_assoc]

/-! ## The whole document -/

theorem values_eq_map_fragments (d : Document) :
    d.clauses.values = d.clauses.keys.map d.fragments := by
  rw [OrderedMap.values, entries_eq_map_keys, List.map_map]
  rfl

/-- All fragments, taken clause by clause. A clause that is missing adds none. -/
theorem values_flatten_perm (d : Document) :
    d.clauses.values.flatten.Perm (Clause.all.flatMap d.fragments) := by
  -- the clauses of the document are some of all clauses, and the others hold nothing
  have hkeys : d.clauses.keys.Perm (Clause.all.filter fun c => c ∈ d.clauses.keys) := by
    refine (List.perm_ext_iff_of_nodup d.clauses.keys_nodup (.filter _ (by decide))).2 fun c => ?_
    simp [c.mem_all]
  have hothers : (Clause.all.filter fun c => !decide (c ∈ d.clauses.keys)).flatMap d.fragments =
      [] := by
    rw [List.flatMap_eq_nil_iff]
    intro c hc
    exact fragments_eq_nil (by simpa using List.of_mem_filter hc)
  calc d.clauses.values.flatten
      = d.clauses.keys.flatMap d.fragments := by rw [values_eq_map_fragments, List.flatMap_def]
    List.Perm _ ((Clause.all.filter fun c => c ∈ d.clauses.keys).flatMap d.fragments) :=
      hkeys.flatMap_right d.fragments
    _ = ((Clause.all.filter fun c => c ∈ d.clauses.keys) ++
          Clause.all.filter fun c => !decide (c ∈ d.clauses.keys)).flatMap d.fragments := by
      rw [List.flatMap_append, hothers, List.append_nil]
    List.Perm _ (Clause.all.flatMap d.fragments) :=
      (List.filter_append_perm _ _).flatMap_right d.fragments

end SearchRules.Document
