import Mathlib.Algebra.BigOperators.Group.List.Basic
import Mathlib.Data.List.Nodup
import Mathlib.Tactic

set_option autoImplicit false

/-!
# Tables with unique indexes and row checks

A row occupies a list of index entries. A partial index simply contributes no
entry for the rows outside its condition, so every uniqueness constraint of a
table is the one statement that no entry is occupied twice.
-/

namespace Relational

class Schema (α : Type) where
  Entry : Type
  decEntry : DecidableEq Entry
  entries : α → List Entry
  check : α → Bool

class Keyed (α : Type) extends Schema α where
  key : α → Nat
  primary : Nat → Entry
  primary_mem : ∀ row, primary (key row) ∈ entries row

open Schema Keyed

instance (α : Type) [Schema α] : DecidableEq (Schema.Entry α) := Schema.decEntry

structure Table (α : Type) [Schema α] where
  rows : List α
  unique : (rows.flatMap entries).Nodup
  checked : ∀ row ∈ rows, check row = true

variable {α : Type} [Schema α]

namespace Table

def empty : Table α := ⟨[], by simp, by simp⟩

instance : EmptyCollection (Table α) := ⟨empty⟩

@[simp] theorem rows_empty : (∅ : Table α).rows = [] := rfl

theorem eq_of_entry (t : Table α) {r s : α} (left : r ∈ t.rows) (right : s ∈ t.rows)
    {e : Schema.Entry α} (inLeft : e ∈ entries r) (inRight : e ∈ entries s) : r = s := by
  have disjoint := (List.nodup_flatMap.mp t.unique).2
  have : Std.Symm (Function.onFun List.Disjoint (entries (α := α))) := ⟨fun _ _ h => h.symm⟩
  by_contra different
  exact disjoint.forall left right different inLeft inRight

def insert (t : Table α) (row : α) : Option (Table α) :=
  if h : ((t.rows ++ [row]).flatMap entries).Nodup ∧ check row = true then
    some ⟨t.rows ++ [row], h.1, by
      intro r member
      rcases List.mem_append.mp member with old | new
      · exact t.checked r old
      · rw [List.mem_singleton.mp new]; exact h.2⟩
  else none

theorem insert_rows {t t' : Table α} {row : α} (h : t.insert row = some t') :
    t'.rows = t.rows ++ [row] := by
  unfold insert at h
  split at h
  · cases h; rfl
  · cases h

theorem insert_isSome {t : Table α} {row : α} (fresh : ∀ r ∈ t.rows, ∀ e ∈ entries row, e ∉ entries r)
    (nodup : (entries row).Nodup) (checked : check row = true) :
    ∃ t', t.insert row = some t' := by
  have unique : ((t.rows ++ [row]).flatMap entries).Nodup := by
    simp only [List.flatMap_append, List.flatMap_cons, List.flatMap_nil, List.append_nil]
    refine List.Nodup.append t.unique nodup ?_
    intro e old new
    obtain ⟨r, member, occupied⟩ := List.mem_flatMap.mp old
    exact fresh r member e new occupied
  exact ⟨_, dif_pos ⟨unique, checked⟩⟩

theorem insert_fresh {t t' : Table α} {row : α} (h : t.insert row = some t') {r : α}
    (member : r ∈ t.rows) {e : Schema.Entry α} (inRow : e ∈ entries row) : e ∉ entries r := by
  intro occupied
  have nodup := t'.unique
  rw [insert_rows h, List.flatMap_append, List.nodup_append] at nodup
  exact nodup.2.2 e (List.mem_flatMap.mpr ⟨r, member, occupied⟩) e (by simpa using inRow) rfl

def updated (p : α → Bool) (f : α → α) (row : α) : α :=
  if p row then f row else row

def update (t : Table α) (p : α → Bool) (f : α → α) : Option (Table α) :=
  if h : ((t.rows.map (updated p f)).flatMap entries).Nodup ∧
      ∀ row ∈ t.rows.map (updated p f), check row = true then
    some ⟨t.rows.map (updated p f), h.1, h.2⟩
  else none

theorem update_rows {t t' : Table α} {p : α → Bool} {f : α → α} (h : t.update p f = some t') :
    t'.rows = t.rows.map (updated p f) := by
  unfold update at h
  split at h
  · cases h; rfl
  · cases h

theorem flatMap_updated (p : α → Bool) (f : α → α) (rows : List α)
    (same : ∀ row ∈ rows, p row = true → entries (f row) = entries row) :
    (rows.map (updated p f)).flatMap entries = rows.flatMap entries := by
  induction rows with
  | nil => rfl
  | cons row rest ih =>
    have head : entries (updated p f row) = entries row := by
      unfold updated
      split
      · exact same row (by simp) ‹_›
      · rfl
    simp only [List.map_cons, List.flatMap_cons, head]
    rw [ih (fun r member => same r (by simp [member]))]

theorem update_isSome {t : Table α} {p : α → Bool} {f : α → α}
    (same : ∀ row ∈ t.rows, p row = true → entries (f row) = entries row)
    (checked : ∀ row ∈ t.rows, p row = true → check (f row) = true) :
    ∃ t', t.update p f = some t' := by
  refine ⟨_, dif_pos ⟨?_, ?_⟩⟩
  · rw [flatMap_updated p f t.rows same]; exact t.unique
  · intro row member
    obtain ⟨old, present, rfl⟩ := List.mem_map.mp member
    unfold updated
    split
    · exact checked old present ‹_›
    · exact t.checked old present

theorem update_refused {t : Table α} {p : α → Bool} {f : α → α} (refused : t.update p f = none)
    (same : ∀ row ∈ t.rows, p row = true → entries (f row) = entries row) :
    ∃ row ∈ t.rows, p row = true ∧ check (f row) = false := by
  by_contra accepted
  have checked (row : α) (member : row ∈ t.rows) (picked : p row = true) : check (f row) = true := by
    by_contra fails
    exact accepted ⟨row, member, picked, by simpa using fails⟩
  obtain ⟨t', updated⟩ := update_isSome same checked
  rw [refused] at updated
  cases updated

theorem update_restores {t s : Table α} {p : α → Bool} {f : α → α}
    (same : (t.rows.map (updated p f)).flatMap entries = s.rows.flatMap entries)
    (checked : ∀ row ∈ t.rows.map (updated p f), check row = true) : ∃ t', t.update p f = some t' :=
  ⟨_, dif_pos ⟨same ▸ s.unique, checked⟩⟩

/-- Updates of columns that no index and no check reads. -/
structure Inert (f : α → α) : Prop where
  entries : ∀ row, entries (f row) = entries row
  check : ∀ row, check (f row) = check row

def modify (t : Table α) (p : α → Bool) (f : α → α) (inert : Inert f) : Table α where
  rows := t.rows.map (updated p f)
  unique := by
    rw [flatMap_updated p f t.rows (fun row _ _ => inert.entries row)]
    exact t.unique
  checked := by
    intro row member
    obtain ⟨old, present, rfl⟩ := List.mem_map.mp member
    unfold updated
    split
    · rw [inert.check old]; exact t.checked old present
    · exact t.checked old present

@[simp] theorem modify_rows (t : Table α) (p : α → Bool) (f : α → α) (inert : Inert f) :
    (t.modify p f inert).rows = t.rows.map (updated p f) := rfl

def delete (t : Table α) (p : α → Bool) : Table α where
  rows := t.rows.filter (fun row => !p row)
  unique := t.unique.sublist (List.filter_sublist.flatMap entries)
  checked := fun row member => t.checked row (List.mem_of_mem_filter member)

@[simp] theorem delete_rows (t : Table α) (p : α → Bool) :
    (t.delete p).rows = t.rows.filter (fun row => !p row) := rfl

omit [Schema α] in
theorem map_updated {β : Type} (g : α → β) (p : α → Bool) (f : α → α) (rows : List α)
    (same : ∀ row ∈ rows, p row = true → g (f row) = g row) :
    (rows.map (updated p f)).map g = rows.map g := by
  rw [List.map_map]
  apply List.map_congr_left
  intro row member
  simp only [Function.comp_apply, updated]
  split
  · exact same row member ‹_›
  · rfl

omit [Schema α] in
theorem filter_updated {p q : α → Bool} {f : α → α} {rows : List α}
    (same : ∀ row ∈ rows, p row = true → q (f row) = q row) :
    (rows.map (updated p f)).filter q = (rows.filter q).map (updated p f) := by
  rw [List.filter_map]
  refine congrArg _ (List.filter_congr fun row member => ?_)
  simp only [Function.comp_apply, updated]
  split
  · exact same row member ‹_›
  · rfl

omit [Schema α] in
theorem filter_updated_apart {p q : α → Bool} {f : α → α} {rows : List α}
    (apart : ∀ row ∈ rows, p row = true → q row = false ∧ q (f row) = false) :
    (rows.map (updated p f)).filter q = rows.filter q := by
  rw [filter_updated fun row member picked => by rw [(apart row member picked).1, (apart row member picked).2]]
  refine (List.map_congr_left fun row member => ?_).trans (List.map_id _)
  obtain ⟨inside, selected⟩ := List.mem_filter.mp member
  by_cases picked : p row = true
  · rw [(apart row inside picked).1] at selected
    cases selected
  · simp [updated, picked]

omit [Schema α] in
theorem filter_updated_out {p q : α → Bool} {f : α → α} {rows : List α}
    (out : ∀ row ∈ rows, p row = true → q (f row) = false) :
    (rows.map (updated p f)).filter q = (rows.filter q).filter fun row => !p row := by
  induction rows with
  | nil => rfl
  | cons row rest ih =>
    have tail := ih fun r member => out r (List.mem_cons_of_mem _ member)
    cases picked : p row with
    | true =>
      have gone := out row (by simp) picked
      cases wanted : q row <;> simp [updated, picked, gone, wanted, tail]
    | false => cases wanted : q row <;> simp [updated, picked, wanted, tail]

end Table

theorem filter_key {γ κ : Type} [DecidableEq κ] {l : List γ} {k : γ → κ} (nodup : (l.map k).Nodup)
    {a : γ} (member : a ∈ l) : l.filter (fun b => k b == k a) = [a] := by
  induction l with
  | nil => cases member
  | cons b rest ih =>
    simp only [List.map_cons, List.nodup_cons] at nodup
    by_cases same : k b = k a
    · have absent : rest.filter (fun c => k c == k a) = [] := by
        rw [List.filter_eq_nil_iff]
        intro c inside equal
        exact nodup.1 (same ▸ beq_iff_eq.mp equal ▸ List.mem_map_of_mem inside)
      have here : b = a := by
        rcases List.mem_cons.mp member with now | later
        · exact now.symm
        · exact absurd (same ▸ List.mem_map_of_mem later) nodup.1
      simp [here, absent]
    · have later : a ∈ rest := by
        rcases List.mem_cons.mp member with now | later
        · exact absurd (congrArg k now).symm same
        · exact later
      simp [same, ih nodup.2 later]

namespace Table

variable {β : Type} [Keyed β]

theorem eq_of_key (t : Table β) {r s : β} (left : r ∈ t.rows) (right : s ∈ t.rows)
    (same : key r = key s) : r = s :=
  t.eq_of_entry left right (primary_mem r) (same ▸ primary_mem s)

theorem keys_nodup (t : Table β) : (t.rows.map key).Nodup := by
  have disjoint := (List.nodup_flatMap.mp t.unique).2
  rw [List.Nodup, List.pairwise_map]
  refine disjoint.imp ?_
  intro r s separate same
  exact separate (primary_mem r) (same ▸ primary_mem s)

theorem nodup (t : Table β) : t.rows.Nodup := t.keys_nodup.of_map

theorem insert_key_fresh {t t' : Table β} {row : β} (h : t.insert row = some t') {r : β}
    (member : r ∈ t.rows) : key r ≠ key row := by
  intro same
  exact insert_fresh h member (primary_mem row) (same ▸ primary_mem r)

def get (t : Table β) (k : Nat) : Option β := t.rows.find? (fun row => key row == k)

theorem mem_of_get {t : Table β} {k : Nat} {row : β} (h : t.get k = some row) :
    row ∈ t.rows ∧ key row = k :=
  ⟨List.mem_of_find?_eq_some h, by simpa using List.find?_some h⟩

theorem get_of_mem {t : Table β} {row : β} (member : row ∈ t.rows) : t.get (key row) = some row := by
  cases found : t.get (key row) with
  | none =>
    have absent := List.find?_eq_none.mp found row member
    simp at absent
  | some other =>
    obtain ⟨present, same⟩ := mem_of_get found
    rw [t.eq_of_key present member same]

theorem find_key (t : Table β) (q : β → Bool) (k : Nat) :
    t.rows.find? (fun row => q row && key row == k) = (t.get k).filter q := by
  cases found : t.rows.find? (fun row => q row && key row == k) with
  | some row =>
    have picked := List.find?_some found
    simp only [Bool.and_eq_true, beq_iff_eq] at picked
    obtain ⟨wanted, rfl⟩ := picked
    simp [get_of_mem (List.mem_of_find?_eq_some found), Option.filter, wanted]
  | none =>
    rcases Option.eq_none_or_eq_some (t.get k) with missing | ⟨row, present⟩
    · simp [missing]
    · obtain ⟨member, rfl⟩ := mem_of_get present
      have absent := List.find?_eq_none.mp found row member
      simp only [beq_self_eq_true, Bool.and_true] at absent
      simp [present, Option.filter, absent]

theorem find_of_mem (t : Table β) {q : β → Bool} {row : β} (member : row ∈ t.rows) (picked : q row = true) :
    t.rows.find? (fun r => q r && key r == key row) = some row := by
  have found := t.find_key q (key row)
  rw [get_of_mem member] at found
  rw [found, Option.filter, if_pos picked]

theorem get_insert {t t' : Table β} {row : β} (h : t.insert row = some t') (k : Nat) :
    t'.get k = if key row = k then some row else t.get k := by
  simp only [get, insert_rows h, List.find?_append]
  by_cases same : key row = k
  · have absent : t.rows.find? (fun r => key r == k) = none := by
      rw [List.find?_eq_none]
      intro r member
      simpa [same] using insert_key_fresh h member
    simp [same, absent]
  · simp [same]

theorem get_updated {t t' : Table β} {p : β → Bool} {f : β → β}
    (rows : t'.rows = t.rows.map (updated p f)) (same : ∀ row, key (f row) = key row) (k : Nat) :
    t'.get k = (t.get k).map (updated p f) := by
  have keyed (row : β) : key (updated p f row) = key row := by
    unfold updated
    split
    · exact same row
    · rfl
  simp only [get, rows, List.find?_map]
  simp [keyed]

theorem get_updated_key {t t' : Table β} {p : β → Bool} {f : β → β} {k : Nat}
    (rows : t'.rows = t.rows.map (updated p f)) (same : ∀ row, key (f row) = key row)
    (named : ∀ row, p row = true → key row = k) :
    t'.get = Function.update t.get k ((t.get k).map (updated p f)) := by
  funext j
  rw [get_updated rows same]
  by_cases here : j = k
  · rw [here, Function.update_self]
  · rw [Function.update_of_ne here]
    cases found : t.get j with
    | none => rfl
    | some row =>
      have skipped : p row = false := by
        by_contra picked
        exact here ((mem_of_get found).2.symm.trans (named row (by simpa using picked)))
      simp [updated, skipped]

end Table

end Relational
