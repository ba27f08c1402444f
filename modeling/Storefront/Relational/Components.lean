import Storefront.Relational.Parts

set_option autoImplicit false

/-!
# One table for rows of several kinds

The rows of one kind make up a table of their own. A statement on rows of one kind
is accepted by the one table exactly if the other accepts it.
-/

namespace Relational

open Schema

/-- The rows of a kind, and how their index entries lie among all others. -/
structure Component (ρ α : Type) [Schema ρ] [Schema α] where
  row? : ρ → Option α
  into : Schema.Entry α → Schema.Entry ρ
  injective : Function.Injective into
  entries_eq : ∀ r a, row? r = some a → entries r = (entries a).map into
  check_eq : ∀ r a, row? r = some a → check r = check a
  apart : ∀ r, row? r = none → ∀ e, into e ∉ entries r

namespace Component

variable {ρ α : Type} [Schema ρ] [Schema α] (c : Component ρ α)

def rows (l : List ρ) : List α := l.filterMap c.row?

theorem sublist_entries (l : List ρ) : (((c.rows l).flatMap entries).map c.into).Sublist (l.flatMap entries) := by
  induction l with
  | nil => exact .refl _
  | cons r rest ih =>
    cases kind : c.row? r with
    | none =>
      simp only [rows, List.filterMap_cons, kind, List.flatMap_cons]
      exact ih.trans (List.sublist_append_right _ _)
    | some a =>
      simp only [rows, List.filterMap_cons, kind, List.flatMap_cons, List.map_append, c.entries_eq r a kind]
      exact (List.Sublist.refl _).append ih

theorem map_entries {l : List ρ} (kind : ∀ r ∈ l, (c.row? r).isSome = true) :
    l.flatMap entries = ((c.rows l).flatMap entries).map c.into := by
  induction l with
  | nil => rfl
  | cons r rest ih =>
    obtain ⟨a, found⟩ := Option.isSome_iff_exists.mp (kind r List.mem_cons_self)
    simp only [rows, List.filterMap_cons, found, List.flatMap_cons, List.map_append, c.entries_eq r a found]
    rw [ih fun s member => kind s (List.mem_cons_of_mem _ member), rows]

theorem rows_filter (l : List ρ) : c.rows (l.filter fun r => (c.row? r).isSome) = c.rows l := by
  rw [rows, List.filterMap_filter]
  refine List.filterMap_congr fun r _ => ?_
  cases c.row? r <;> simp

theorem mem_rows {l : List ρ} {a : α} : a ∈ c.rows l ↔ ∃ r ∈ l, c.row? r = some a := by
  simp [rows]

def table (t : Table ρ) : Table α where
  rows := c.rows t.rows
  unique := (t.unique.sublist (c.sublist_entries t.rows)).of_map
  checked := by
    intro a member
    obtain ⟨r, present, kind⟩ := c.mem_rows.mp member
    rw [← c.check_eq r a kind]
    exact t.checked r present

@[simp] theorem table_rows (t : Table ρ) : (c.table t).rows = c.rows t.rows := rfl

/-- A statement on rows of the kind, and the same statement on the table of the kind. -/
structure Acts (p : ρ → Bool) (f : ρ → ρ) (q : α → Bool) (g : α → α) : Prop where
  selects : ∀ r a, c.row? r = some a → p r = q a
  only : ∀ r, p r = true → (c.row? r).isSome = true
  writes : ∀ r a, c.row? r = some a → c.row? (f r) = some (g a)

variable {c} {p : ρ → Bool} {f : ρ → ρ} {q : α → Bool} {g : α → α}

theorem Acts.row (acts : c.Acts p f q g) (r : ρ) :
    c.row? (Table.updated p f r) = (c.row? r).map (Table.updated q g) := by
  cases kind : c.row? r with
  | none =>
    have spared : p r = false := by
      by_contra picked
      have some := acts.only r (by simpa using picked)
      simp [kind] at some
    simp [Table.updated, spared, kind]
  | some a =>
    have same := acts.selects r a kind
    by_cases picked : q a = true
    · simp [Table.updated, same, picked, acts.writes r a kind]
    · simp [Table.updated, same, picked, kind]

theorem Acts.rows (acts : c.Acts p f q g) (l : List ρ) :
    c.rows (l.map (Table.updated p f)) = (c.rows l).map (Table.updated q g) := by
  simp only [Component.rows, List.filterMap_map, List.map_filterMap]
  congr 1
  funext r
  exact acts.row r

/-- The one table accepts the statement exactly if the other does, with the same result. -/
theorem Acts.update (acts : c.Acts p f q g) (t : Table ρ) : (t.update p f).map c.table = (c.table t).update q g := by
  cases written : t.update p f with
  | some t' =>
    refine (Table.update_eq_some.mpr ?_).symm
    rw [table_rows, table_rows, Table.update_rows written, acts.rows]
  | none =>
    rcases Option.eq_none_or_eq_some ((c.table t).update q g) with refused | ⟨s, accepted⟩
    · exact refused.symm
    · let mine : ρ → Bool := fun r => (c.row? r).isSome
      have own (r : ρ) (picked : p r = true) : mine r = true ∧ mine (f r) = true := by
        obtain ⟨a, kind⟩ := Option.isSome_iff_exists.mp (acts.only r picked)
        simp [mine, kind, acts.writes r a kind]
      have free (r : ρ) (picked : p r = true) (s : ρ) (foreign : mine s = false) (e : Schema.Entry ρ)
          (inRow : e ∈ entries (f r)) : e ∉ entries s := by
        obtain ⟨a, kind⟩ := Option.isSome_iff_exists.mp (acts.only r picked)
        rw [c.entries_eq _ _ (acts.writes r a kind)] at inRow
        obtain ⟨x, _, rfl⟩ := List.mem_map.mp inRow
        exact c.apart s (by simpa [mine] using foreign) x
      have rows : s.rows = (c.rows t.rows).map (Table.updated q g) := Table.update_rows accepted
      have whole : c.rows ((t.part mine).rows.map (Table.updated p f)) = s.rows := by
        rw [acts.rows, Table.part_rows, rows_filter, rows]
      have kinds : ∀ r ∈ (t.part mine).rows.map (Table.updated p f), (c.row? r).isSome = true := by
        intro r member
        obtain ⟨old, present, rfl⟩ := List.mem_map.mp member
        rw [acts.row]
        simpa [mine] using (List.mem_filter.mp present).2
      have allowed : (((t.part mine).rows.map (Table.updated p f)).flatMap entries).Nodup ∧
          ∀ r ∈ (t.part mine).rows.map (Table.updated p f), check r = true := by
        refine ⟨?_, fun r member => ?_⟩
        · rw [c.map_entries kinds, whole]
          exact s.unique.map c.injective
        · obtain ⟨a, kind⟩ := Option.isSome_iff_exists.mp (kinds r member)
          rw [c.check_eq r a kind]
          exact s.checked a (whole ▸ c.mem_rows.mpr ⟨r, member, kind⟩)
      have part := Table.update_part (t := t) (fun r _ picked => own r picked)
        (fun r _ picked s _ foreign e inRow => free r picked s foreign e inRow)
      rw [written, Option.map_none, Table.update, dif_pos allowed] at part
      cases part

theorem Acts.other {β : Type} [Schema β] {d : Component ρ β} (acts : c.Acts p f q g) {t t' : Table ρ}
    (written : t.update p f = some t') (separate : ∀ r, (c.row? r).isSome = true → d.row? r = none) :
    d.table t' = d.table t := by
  refine Table.ext_rows ?_
  rw [table_rows, table_rows, Table.update_rows written, Component.rows, List.filterMap_map]
  congr 1
  funext r
  simp only [Function.comp_apply, Table.updated]
  split
  next picked =>
    have mine := acts.only r picked
    obtain ⟨a, kind⟩ := Option.isSome_iff_exists.mp mine
    rw [separate r mine, separate (f r) (by simp [acts.writes r a kind])]
  · rfl

theorem rows_filter_eq (selects : ∀ r a, c.row? r = some a → p r = q a) (l : List ρ) :
    c.rows (l.filter p) = (c.rows l).filter q := by
  rw [rows, rows, List.filterMap_filter, List.filter_filterMap]
  refine List.filterMap_congr fun r _ => ?_
  cases kind : c.row? r with
  | none => simp
  | some a => simp [selects r a kind, Option.filter]

end Component

theorem Table.update_inert {α : Type} [Schema α] {t : Table α} {p : α → Bool} {f : α → α} (inert : Table.Inert f) :
    t.update p f = some (t.modify p f inert) :=
  Table.update_eq_some.mpr rfl

end Relational
