import Storefront.Relational.Table

set_option autoImplicit false

/-!
# The part of a table that one owner sees

A statement that selects rows of the part only does to the part what it does to
the table, unless an index entry outside the part stands in its way.
-/

namespace Relational

open Schema Keyed

namespace Table

variable {α : Type} [Schema α]

theorem ext_rows {t s : Table α} (same : t.rows = s.rows) : t = s := by
  cases t
  cases s
  cases same
  rfl

theorem insert_eq_some {t t' : Table α} {row : α} : t.insert row = some t' ↔ t'.rows = t.rows ++ [row] := by
  constructor
  · exact insert_rows
  · intro rows
    have accepted : ((t.rows ++ [row]).flatMap entries).Nodup ∧ check row = true :=
      ⟨rows ▸ t'.unique, t'.checked row (by simp [rows])⟩
    rw [insert, dif_pos accepted]
    exact congrArg some (ext_rows rows.symm)

theorem update_eq_some {t t' : Table α} {p : α → Bool} {f : α → α} :
    t.update p f = some t' ↔ t'.rows = t.rows.map (updated p f) := by
  constructor
  · exact update_rows
  · intro rows
    have accepted : ((t.rows.map (updated p f)).flatMap entries).Nodup ∧
        ∀ row ∈ t.rows.map (updated p f), check row = true := ⟨rows ▸ t'.unique, rows ▸ t'.checked⟩
    rw [update, dif_pos accepted]
    exact congrArg some (ext_rows rows.symm)

def part (t : Table α) (mine : α → Bool) : Table α where
  rows := t.rows.filter mine
  unique := t.unique.sublist (List.filter_sublist.flatMap entries)
  checked := fun row member => t.checked row (List.mem_of_mem_filter member)

@[simp] theorem part_rows (t : Table α) (mine : α → Bool) : (t.part mine).rows = t.rows.filter mine := rfl

section Parts

variable {t t' : Table α} {mine p : α → Bool} {f : α → α} {row : α}

theorem find_part (inside : ∀ row, p row = true → mine row = true) :
    (t.part mine).rows.find? p = t.rows.find? p := by
  rw [part_rows, List.find?_filter]
  congr 1
  funext row
  by_cases picked : p row = true
  · simp [picked, inside row picked]
  · simp [picked]

theorem filter_part (inside : ∀ row, p row = true → mine row = true) :
    (t.part mine).rows.filter p = t.rows.filter p := by
  rw [part_rows, List.filter_filter]
  refine List.filter_congr fun row _ => ?_
  by_cases picked : p row = true
  · simp [picked, inside row picked]
  · simp [picked]

theorem insert_part (own : mine row = true)
    (free : ∀ r ∈ t.rows, mine r = false → ∀ e ∈ entries row, e ∉ entries r) :
    (t.part mine).insert row = (t.insert row).map (part · mine) := by
  cases inserted : t.insert row with
  | some t' =>
    refine insert_eq_some.mpr ?_
    simp [insert_rows inserted, own]
  | none =>
    rcases Option.eq_none_or_eq_some ((t.part mine).insert row) with refused | ⟨s, accepted⟩
    · exact refused
    · have rows : s.rows = t.rows.filter mine ++ [row] := insert_rows accepted
      have fresh (r : α) (member : r ∈ t.rows) (e : Schema.Entry α) (inRow : e ∈ entries row) : e ∉ entries r := by
        by_cases here : mine r = true
        · exact insert_fresh accepted (List.mem_filter.mpr ⟨member, here⟩) inRow
        · exact free r member (by simpa using here) e inRow
      have nodup : (entries row).Nodup := (List.nodup_flatMap.mp s.unique).1 row (by simp [rows])
      obtain ⟨t', present⟩ := insert_isSome fresh nodup (s.checked row (by simp [rows]))
      rw [inserted] at present
      cases present

theorem insert_clash (taken : ∃ r ∈ t.rows, ∃ e ∈ entries row, e ∈ entries r) : t.insert row = none := by
  obtain ⟨r, member, e, inRow, occupied⟩ := taken
  rcases Option.eq_none_or_eq_some (t.insert row) with refused | ⟨t', accepted⟩
  · exact refused
  · exact absurd occupied (insert_fresh accepted member inRow)

theorem part_insert_out (inserted : t.insert row = some t') (out : mine row = false) : t'.part mine = t.part mine :=
  ext_rows (by simp [insert_rows inserted, out])

omit [Schema α] in
theorem map_updated_out {rows : List α} (out : ∀ row ∈ rows, p row = false) : rows.map (updated p f) = rows := by
  conv_rhs => rw [← List.map_id rows]
  exact List.map_congr_left fun row member => by simp [updated, out row member]

theorem update_part (inside : ∀ row ∈ t.rows, p row = true → mine row = true ∧ mine (f row) = true)
    (free : ∀ row ∈ t.rows, p row = true → ∀ s ∈ t.rows, mine s = false → ∀ e ∈ entries (f row), e ∉ entries s) :
    (t.part mine).update p f = (t.update p f).map (part · mine) := by
  have keeps : (t.rows.map (updated p f)).filter mine = (t.rows.filter mine).map (updated p f) :=
    filter_updated fun row member picked => by simp [inside row member picked]
  cases written : t.update p f with
  | some t' =>
    refine update_eq_some.mpr ?_
    simp only [part_rows, update_rows written, keeps]
  | none =>
    rcases Option.eq_none_or_eq_some ((t.part mine).update p f) with refused | ⟨s, accepted⟩
    · exact refused
    · have rows : s.rows = (t.rows.filter mine).map (updated p f) := update_rows accepted
      let foreign : α → Bool := fun row => !mine row
      have untouched : (t.rows.filter foreign).map (updated p f) = t.rows.filter foreign := by
        refine map_updated_out fun row member => ?_
        obtain ⟨present, out⟩ := List.mem_filter.mp member
        by_contra picked
        simp [foreign, (inside row present (by simpa using picked)).1] at out
      have perm : (s.rows ++ t.rows.filter foreign).Perm (t.rows.map (updated p f)) := by
        rw [rows, ← untouched, ← List.map_append]
        exact (List.filter_append_perm mine t.rows).map _
      have apart : (s.rows.flatMap entries).Disjoint ((t.rows.filter foreign).flatMap entries) := by
        intro e left right
        obtain ⟨_, written, inLeft⟩ := List.mem_flatMap.mp left
        obtain ⟨other, out, inRight⟩ := List.mem_flatMap.mp right
        obtain ⟨there, outside⟩ := List.mem_filter.mp out
        have outside : mine other = false := by simpa [foreign] using outside
        rw [rows] at written
        obtain ⟨row, member, rfl⟩ := List.mem_map.mp written
        obtain ⟨here, own⟩ := List.mem_filter.mp member
        unfold updated at inLeft
        split at inLeft
        next picked => exact free row here picked other there outside e inLeft inRight
        · rw [t.eq_of_entry here there inLeft inRight, outside] at own
          cases own
      have unique : ((t.rows.map (updated p f)).flatMap entries).Nodup := by
        refine ((perm.flatMap_right _).nodup_iff).mp ?_
        rw [List.flatMap_append]
        exact s.unique.append (t.part foreign).unique apart
      have checked : ∀ row ∈ t.rows.map (updated p f), check row = true := by
        intro row member
        rcases List.mem_append.mp (perm.mem_iff.mpr member) with own | out
        · exact s.checked row own
        · exact t.checked row (List.mem_of_mem_filter out)
      rw [update, dif_pos ⟨unique, checked⟩] at written
      cases written

theorem part_update_out (written : t.update p f = some t')
    (out : ∀ row ∈ t.rows, p row = true → mine row = false ∧ mine (f row) = false) : t'.part mine = t.part mine :=
  ext_rows (by rw [part_rows, update_rows written, filter_updated_apart out, part_rows])

theorem part_modify {inert : Inert f} (inside : ∀ row ∈ t.rows, p row = true → mine (f row) = mine row) :
    (t.part mine).modify p f inert = (t.modify p f inert).part mine :=
  ext_rows (filter_updated inside).symm

theorem part_modify_out {inert : Inert f}
    (out : ∀ row ∈ t.rows, p row = true → mine row = false ∧ mine (f row) = false) :
    (t.modify p f inert).part mine = t.part mine :=
  ext_rows (by rw [part_rows, modify_rows, filter_updated_apart out, part_rows])

theorem part_delete : (t.part mine).delete p = (t.delete p).part mine :=
  ext_rows (by simp only [delete_rows, part_rows, List.filter_filter, Bool.and_comm])

theorem part_delete_out (out : ∀ row ∈ t.rows, p row = true → mine row = false) :
    (t.delete p).part mine = t.part mine := by
  refine ext_rows ?_
  rw [part_rows, delete_rows, List.filter_filter]
  refine List.filter_congr fun row member => ?_
  by_cases picked : p row = true
  · simp [out row member picked]
  · simp [picked]

end Parts

theorem get_part {β : Type} [Keyed β] {t : Table β} {mine : β → Bool} {k : Nat}
    (own : ∀ row ∈ t.rows, key row = k → mine row = true) : (t.part mine).get k = t.get k := by
  rw [get, get, part_rows, List.find?_filter]
  refine List.find?_congr fun row member => ?_
  by_cases named : key row = k
  · simp [named, own row member named]
  · simp [named]

end Table

end Relational
