import Mathlib.Data.List.Basic
import ProxyWatch.Toml.Document

/-! Where a document under construction grows: every table is opened behind all that was there before, and what is read
below its header goes into it. -/
namespace ProxyWatch.Toml

namespace Members

variable {ms base inner : Members} {name : String} {e e' : Entry} {path : List String} {place : Members → Members}
  {wrap : Members → Entry}

def names (ms : Members) : List String := ms.map Prod.fst

theorem entry?_eq_none (h : name ∉ ms.names) : ms.entry? name = none := by
  simp only [Option.map_eq_none_iff, entry?, List.find?_eq_none, beq_iff_eq]
  rintro m hm rfl
  exact h (List.mem_map_of_mem hm)

theorem any_eq_false (h : name ∉ ms.names) : ms.any (·.1 == name) = false := by
  rw [List.any_eq_false]
  intro m hm hname
  exact h (by rw [← beq_iff_eq.mp hname]; exact List.mem_map_of_mem hm)

theorem put_new (h : name ∉ ms.names) (e : Entry) : ms.put name e = ms ++ [(name, e)] := by
  simp [put, any_eq_false h]

theorem entry?_last (h : name ∉ ms.names) : entry? (ms ++ [(name, e)]) name = some e := by
  have hfind : List.find? (fun m => m.1 == name) ms = none := Option.map_eq_none_iff.mp (entry?_eq_none h)
  simp [List.find?_append, entry?, hfind]

theorem put_last (h : name ∉ ms.names) : (ms ++ [(name, e)] : Members).put name e' = ms ++ [(name, e')] := by
  have hkeep : ms.map (fun m => if m.1 == name then (name, e') else m) = ms := by
    refine (List.map_congr_left fun m hm => ?_).trans (List.map_id ms)
    have hne : m.1 ≠ name := by
      rintro rfl
      exact h (List.mem_map_of_mem hm)
    simp [hne]
  simp only [put, List.any_append, List.any_cons, beq_self_eq_true, Bool.true_or, Bool.or_true, if_true,
    List.map_append, hkeep, List.map_cons, List.map_nil]

/-- An entry around the members of a table: the table, or the array that it is the last one of. -/
inductive Wraps : (Members → Entry) → Prop
  | table (origin : Origin) : Wraps (.table origin)
  | item (items : List Members) : Wraps fun inner => .tables (items ++ [inner])

theorem update_last (hw : Wraps wrap) (hname : name ∉ base.names) (f : Members → Option Members) (names : List String) :
    (base ++ [(name, wrap inner)] : Members).update f (name :: names) =
      (inner.update f names).map fun m => base ++ [(name, wrap m)] := by
  rw [update, entry?_last hname]
  cases hw with
  | table origin => simp only [put_last hname]
  | item items =>
    simp only [List.getLast?_append, List.getLast?_singleton, Option.some_or, List.dropLast_concat, put_last hname]

theorem descend_last (hw : Wraps wrap) (hname : name ∉ base.names) (f : Members → String → Option Members)
    {names : List String} (hne : names ≠ []) : (base ++ [(name, wrap inner)] : Members).descend f (name :: names) =
      (inner.descend f names).map fun m => base ++ [(name, wrap m)] := by
  obtain ⟨next, names, rfl⟩ := List.exists_cons_of_ne_nil hne
  rw [descend.eq_3 _ _ _ _ (by simp), entry?_last hname]
  cases hw with
  | table origin => simp only [put_last hname]
  | item items =>
    simp only [List.getLast?_append, List.getLast?_singleton, Option.some_or, List.dropLast_concat, put_last hname]

/-- Members put into the place are the members of the table that a path leads to. -/
structure IsPlace (path : List String) (place : Members → Members) : Prop where
  update : ∀ f ms names, (place ms).update f (path ++ names) = (ms.update f names).map place
  descend : ∀ f ms names, names ≠ [] → (place ms).descend f (path ++ names) = (ms.descend f names).map place

theorem isPlace_root : IsPlace [] id := ⟨by simp, by simp⟩

/-- The members of a table behind all others that are in a place. -/
theorem IsPlace.inside (h : IsPlace path place) (hw : Wraps wrap) (hname : name ∉ base.names) :
    IsPlace (path ++ [name]) fun inner => place (base ++ [(name, wrap inner)]) where
  update f inner names := by
    rw [List.append_assoc, h.update, List.singleton_append, update_last hw hname, Option.map_map]
    rfl
  descend f inner names hne := by
    rw [List.append_assoc, h.descend _ _ _ (by simp), List.singleton_append, descend_last hw hname f hne, Option.map_map]
    rfl

theorem IsPlace.insert (h : IsPlace path place) (hname : name ∉ base.names) (v : Toml) :
    (place base).update (·.insert v [name]) path = some (place (base ++ [(name, .value v)])) := by
  have hupdate := h.update (·.insert v [name]) base []
  rw [List.append_nil, Members.update, Members.insert, entry?_eq_none hname] at hupdate
  simpa [put_new hname] using hupdate

theorem IsPlace.openTable (h : IsPlace path place) (hname : name ∉ base.names) :
    (place base).openTable (path ++ [name]) = some (place (base ++ [(name, .table .header [])])) := by
  rw [Members.openTable, h.descend _ _ _ (by simp), Members.descend, entry?_eq_none hname]
  simp [put_new hname]

/-- The tables of an array behind all other members. An array without tables isn't there. -/
def withItems (base : Members) (name : String) (items : List Members) : Members :=
  if items = [] then base else base ++ [(name, .tables items)]

theorem IsPlace.openItem (h : IsPlace path place) (hname : name ∉ base.names) (items : List Members) :
    (place (base.withItems name items)).openItem (path ++ [name]) =
      some (place (base ++ [(name, .tables (items ++ [[]]))])) := by
  rw [Members.openItem, h.descend _ _ _ (by simp), Members.descend]
  by_cases hitems : items = []
  · simp [withItems, hitems, entry?_eq_none hname, put_new hname]
  · simp [withItems, hitems, entry?_last hname, put_last hname]

end Members

end ProxyWatch.Toml
