import Mathlib.Algebra.GroupWithZero.Nat
import Mathlib.Data.List.DropRight
import SearchRules.Proofs.Document.Fragments

/-!
# Documents and the changes made to them

A document is changed in two ways: the fragments under a clause are replaced, or
one more is appended to them. After any number of changes the document is told by
the log of them alone. Which clauses are there, and where, is decided by the first
change that names each (`Document.toldClauses`); what stands under a clause is
decided by the last replacement and by what was appended after it
(`Document.told`).

> `keys_changed`, `fragments_changed`: the two views of the document, from the
> log. The inductions are from the end of the log, where one more change is one
> more step.
>
> `changed_eq_told`: everything that can be asked of the document agrees with that
> one description.
-/

namespace SearchRules.Document

/-- A change of a document. -/
inductive Change where
  /-- Replace the fragments under a clause. -/
  | set (c : Clause) (fragments : List Json)
  /-- Append a fragment under a clause. -/
  | push (c : Clause) (fragment : Json)

namespace Change

/-- The clause that a change names. -/
def clause : Change → Clause
  | .set c _ => c
  | .push c _ => c

/-- The document after a change. -/
def apply (d : Document) : Change → Document
  | .set c fragments => d.set c fragments
  | .push c fragment => d.push c fragment

/-- What a change puts in place of the fragments under the clause `c`. -/
def replacement? (c : Clause) : Change → Option (List Json)
  | .set c' fragments => if c' = c then some fragments else none
  | .push _ _ => none

/-- What a change appends under the clause `c`. -/
def appended? (c : Clause) : Change → Option Json
  | .set _ _ => none
  | .push c' fragment => if c' = c then some fragment else none

/-- A change of either sort puts its clause last if it is new, and moves nothing. -/
theorem keys_apply (d : Document) (x : Change) :
    (x.apply d).clauses.keys =
      if x.clause ∈ d.clauses.keys then d.clauses.keys else d.clauses.keys ++ [x.clause] := by
  cases x with
  | set c fragments => exact keys_set d c fragments
  | push c fragment => exact keys_push d c fragment

end Change

/-- The document after changes one after the other. -/
def changed (d : Document) (log : List Change) : Document := log.foldl Change.apply d

/-- The clauses after changes: those that were there, and then the others in the
order in which changes first name them. -/
def toldClauses (d : Document) (log : List Change) : List Clause :=
  (d.clauses.keys ++ log.map Change.clause).eraseDups

/-- The changes after the last that replaces the fragments under the clause. -/
def sinceReplaced (c : Clause) (log : List Change) : List Change :=
  log.rtakeWhile fun x => (x.replacement? c).isNone

/-- The fragments under a clause after changes: the last replacement, or what was
there if there is none, and then what was appended since. -/
def told (d : Document) (log : List Change) (c : Clause) : List Json :=
  (log.filterMap (Change.replacement? c)).getLast?.getD (d.fragments c) ++
    (sinceReplaced c log).filterMap (Change.appended? c)

theorem changed_append (d : Document) (log more : List Change) :
    d.changed (log ++ more) = (d.changed log).changed more := List.foldl_append

/-- The clauses stand in the order in which they are first named, by the document and
then by the log. -/
theorem keys_changed (d : Document) (log : List Change) :
    (d.changed log).clauses.keys = d.toldClauses log :=
  keys_foldl (fun d => d.clauses.keys_nodup) Change.keys_apply d log

/-! ## What stands under a clause -/

/-- A set decides what a clause holds; a push adds to what it held. -/
theorem Change.fragments_apply (d : Document) (x : Change) (c : Clause) :
    (x.apply d).fragments c =
      (x.replacement? c).getD (d.fragments c ++ (x.appended? c).toList) := by
  cases x with
  | set c' fragments =>
    rw [apply, fragments_set, replacement?]
    by_cases h : c = c'
    · rw [if_pos h, if_pos h.symm]
      rfl
    · rw [if_neg h, if_neg fun e => h e.symm]
      exact (List.append_nil _).symm
  | push c' fragment =>
    rw [apply, fragments_push, replacement?, appended?]
    by_cases h : c = c'
    · rw [if_pos h, if_pos h.symm]
      rfl
    · rw [if_neg h, if_neg fun e => h e.symm]
      rfl

/-- One more change at the end of a log is told as it is made. -/
theorem told_append_singleton (d : Document) (log : List Change) (x : Change) (c : Clause) :
    d.told (log ++ [x]) c =
      (x.replacement? c).getD (d.told log c ++ (x.appended? c).toList) := by
  have hreplaced : (log ++ [x]).filterMap (Change.replacement? c) =
      log.filterMap (Change.replacement? c) ++ (x.replacement? c).toList := by
    rw [List.filterMap_append, List.filterMap_eq_flatMap_toList _ [x], List.flatMap_singleton]
  rw [told, hreplaced, sinceReplaced]
  -- a set starts afresh, and a push is one more since the last set
  cases h : x.replacement? c with
  | some fragments =>
    rw [List.rtakeWhile_concat_neg _ _ _ (by simp [h]), Option.toList_some, List.getLast?_concat]
    exact List.append_nil fragments
  | none =>
    rw [List.rtakeWhile_concat_pos _ _ _ (by simp [h]), Option.toList_none, List.append_nil,
      List.filterMap_append, List.filterMap_eq_flatMap_toList _ [x], List.flatMap_singleton,
      ← List.append_assoc]
    rfl

/-- Under each clause stands what was told of it: the last set and the pushes since. -/
theorem fragments_changed (d : Document) (log : List Change) (c : Clause) :
    (d.changed log).fragments c = d.told log c := by
  -- on the log from its end, since the last change decides
  induction log using List.reverseRecOn with
  | nil => exact (List.append_nil _).symm
  | append_singleton log x ih =>
    rw [changed_append, told_append_singleton, ← ih]
    exact x.fragments_apply (d.changed log) c

/-- A clause that was named is there, even with no fragments under it. -/
theorem get?_changed (d : Document) (log : List Change) (c : Clause) :
    (d.changed log).get? c =
      if c ∈ d.toldClauses log then some (d.told log c) else none := by
  rw [← keys_changed, ← fragments_changed]
  split
  · next h => exact get?_eq_some_fragments h
  · next h => exact get?_eq_none h

/-- A clause is there from the start or from some change on. -/
theorem mem_toldClauses_iff {d : Document} {log : List Change} {c : Clause} :
    c ∈ d.toldClauses log ↔ c ∈ d.clauses.keys ∨ ∃ x ∈ log, x.clause = c := by
  rw [toldClauses, List.mem_eraseDups, List.mem_append, List.mem_map]

theorem contains_iff {d : Document} {c : Clause} : d.contains c = true ↔ c ∈ d.clauses.keys :=
  isSome_get?_iff d c

/-- A set counts its clause once, with fragments or without. -/
theorem size_set (d : Document) (c : Clause) (fragments : List Json) :
    (d.set c fragments).size = d.size + if d.contains c then 0 else 1 := by
  have hsize : ∀ d : Document, d.size = d.clauses.keys.length := fun d =>
    (List.length_map Prod.fst).symm
  rw [hsize, hsize, keys_set]
  simp only [contains_iff]
  split
  · rfl
  · exact List.length_append

/-- Clauses that are there keep their places, whatever is changed after. -/
theorem keys_prefix_changed (d : Document) (log : List Change) :
    d.clauses.keys <+: (d.changed log).clauses.keys := by
  rw [keys_changed, toldClauses, List.eraseDups_append, eraseDups_of_nodup d.clauses.keys_nodup]
  exact List.prefix_append _ _

/-! ## Changes of other clauses -/

/-- What a change leaves under a clause depends on what was there. -/
theorem Change.get?_apply_congr {d e : Document} {c : Clause} (h : d.get? c = e.get? c)
    (x : Change) : (x.apply d).get? c = (x.apply e).get? c := by
  cases x with
  | set c' fragments => rw [apply, apply, get?_set, get?_set, h]
  | push c' fragment =>
    rw [apply, apply, get?_push, get?_push]
    by_cases hc : c = c'
    · rw [← hc, h]
    · rw [if_neg hc, if_neg hc, h]

/-- A change touches no clause but its own. -/
theorem Change.get?_apply_of_ne {d : Document} {x : Change} {c : Clause} (h : x.clause ≠ c) :
    (x.apply d).get? c = d.get? c := by
  cases x with
  | set c' fragments => exact (get?_set d c' c fragments).trans (if_neg (Ne.symm h))
  | push c' fragment => exact (get?_push d c' c fragment).trans (if_neg (Ne.symm h))

/-- What stands under a clause depends on the changes of that clause alone. -/
theorem get?_changed_filter {d e : Document} {c : Clause} (h : d.get? c = e.get? c)
    (log : List Change) :
    (d.changed log).get? c = (e.changed (log.filter fun x => x.clause = c)).get? c := by
  induction log generalizing d e with
  | nil => exact h
  | cons x rest ih =>
    rw [List.filter_cons]
    split
    · exact ih (x.get?_apply_congr h)
    · next hx => exact ih ((Change.get?_apply_of_ne (by simpa using hx)).trans h)

/-! ## One description -/

/-- After any changes the document lists the clauses that were there and then those
that the changes name, in the order in which they are first named, each with the
last list that replaced its fragments, or its own, and what was appended since; and
every other question is answered by that list. A clause whose fragments are replaced
by none is there and is counted. Clauses never move, and what stands under one is
decided by the changes that name it. -/
theorem changed_eq_told (d : Document) (log : List Change) :
    (d.changed log).clauses.entries =
      (d.toldClauses log).map (fun c => (c, d.told log c)) ∧
    (d.toldClauses log).Nodup ∧
    (∀ c, (d.changed log).get? c =
      if c ∈ d.toldClauses log then some (d.told log c) else none) ∧
    (∀ c, (d.changed log).contains c = decide (c ∈ d.toldClauses log)) ∧
    (∀ c, (d.changed log).contains c = true ↔
      d.contains c = true ∨ ∃ x ∈ log, x.clause = c) ∧
    (d.changed log).size = (d.toldClauses log).length ∧
    (d.changed log).isEmpty = (d.toldClauses log).isEmpty ∧
    (d.changed log).fragmentCount =
      ((d.toldClauses log).map fun c => (d.told log c).length).sum ∧
    (∀ c, (d.changed (log ++ [.set c []])).get? c = some [] ∧
      (d.changed (log ++ [.set c []])).size =
        (d.changed log).size + if (d.changed log).contains c then 0 else 1) ∧
    (∀ more, (d.changed log).clauses.keys <+: (d.changed (log ++ more)).clauses.keys) ∧
    ∀ c, (d.changed log).get? c = (d.changed (log.filter fun x => x.clause = c)).get? c := by
  have hentries : (d.changed log).clauses.entries =
      (d.toldClauses log).map fun c => (c, d.told log c) := by
    rw [entries_eq_map_keys, keys_changed]
    simp only [fragments_changed]
  have hmem : ∀ c, (d.changed log).contains c = true ↔ c ∈ d.toldClauses log := by
    intro c
    rw [contains_iff, keys_changed]
  refine ⟨hentries, nodup_eraseDups _, get?_changed d log, fun c => ?_, fun c => ?_, ?_, ?_, ?_,
    fun c => ⟨?_, ?_⟩, fun more => ?_, fun c => get?_changed_filter rfl log⟩
  · -- the observers, each from the entries or from the clauses told
    rw [Bool.eq_iff_iff, hmem, decide_eq_true_iff]
  · rw [hmem, mem_toldClauses_iff, contains_iff]
  · rw [size, OrderedMap.size, hentries, List.length_map]
  · rw [isEmpty, OrderedMap.isEmpty, hentries, List.isEmpty_map]
  · rw [fragmentCount, OrderedMap.values, hentries, List.length_flatten, List.map_map,
      List.map_map]
    rfl
  · rw [changed_append]
    exact (get?_set _ _ _ _).trans (if_pos rfl)
  · rw [changed_append]
    exact size_set _ c []
  · rw [changed_append]
    exact keys_prefix_changed _ more

end SearchRules.Document
