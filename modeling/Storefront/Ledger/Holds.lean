import Mathlib.Algebra.BigOperators.Group.List.Basic
import Mathlib.Data.List.Nodup
import Mathlib.Logic.Relation
import Mathlib.Tactic

set_option autoImplicit false

/-!
# Stock books with holds

A book counts what is in stock and what is reserved, and lists the holds that
explain both. A hold moves through phases; while it is `held` it is reserved,
while it is `taken` it is gone from the stock.
-/

namespace Ledger

class Phases (φ : Type) where
  held : φ → Bool
  taken : φ → Bool
  rank : φ → Nat

open Phases

def weight (b : Bool) : ℤ := if b then 1 else 0

structure Hold (κ ι φ : Type) where
  key : κ
  item : ι
  quantity : ℤ
  phase : φ

structure Book (κ ι φ : Type) where
  stock : ι → ℤ
  reserved : ι → ℤ
  holds : List (Hold κ ι φ)
  keyed : (holds.map Hold.key).Nodup

/-- A move of one hold to a later phase, with the change of both counters for
each unit held. The two equations say that the counters follow the phase. -/
structure Transfer (φ : Type) [Phases φ] where
  expects : φ
  becomes : φ
  stock : ℤ
  reserved : ℤ
  forward : rank expects < rank becomes
  reserved_eq : reserved = weight (held becomes) - weight (held expects)
  stock_eq : stock = weight (taken expects) - weight (taken becomes)

variable {κ ι φ : Type}

theorem Book.nodup_holds (b : Book κ ι φ) : b.holds.Nodup := b.keyed.of_map

theorem Book.eq_of_key (b : Book κ ι φ) {g h : Hold κ ι φ} (left : g ∈ b.holds) (right : h ∈ b.holds)
    (same : g.key = h.key) : g = h :=
  List.inj_on_of_nodup_map b.keyed left right same

theorem sum_map_replace {β : Type} (l : List β) (nodup : l.Nodup) {a : β} (member : a ∈ l)
    (w v : β → ℤ) (same : ∀ b ∈ l, b ≠ a → v b = w b) :
    (l.map v).sum = (l.map w).sum + (v a - w a) := by
  induction l with
  | nil => simp at member
  | cons head rest ih =>
    obtain ⟨absent, nodup⟩ := List.nodup_cons.mp nodup
    simp only [List.map_cons, List.sum_cons]
    by_cases here : a = head
    · subst here
      have tail : rest.map v = rest.map w := by
        apply List.map_congr_left
        intro b inRest
        exact same b (by simp [inRest]) (fun equal => absent (equal ▸ inRest))
      rw [tail]
      ring
    · have inRest : a ∈ rest := by simpa [here] using member
      rw [ih nodup inRest (fun b inside => same b (by simp [inside])),
        same head (by simp) (fun equal => here equal.symm)]
      ring

variable [DecidableEq κ] [DecidableEq ι] [Phases φ]

def Hold.moved (g : Hold κ ι φ) (key : κ) (phase : φ) : Hold κ ι φ :=
  if g.key = key then { g with phase } else g

namespace Book

def total (b : Book κ ι φ) (w : φ → Bool) (i : ι) : ℤ :=
  (b.holds.map fun h => if h.item = i then weight (w h.phase) * h.quantity else 0).sum

/-- What is reserved beyond the open holds. -/
def slack (b : Book κ ι φ) (i : ι) : ℤ := b.reserved i - b.total held i

/-- What was ever in stock: what still is, and what the taken holds took. -/
def supply (b : Book κ ι φ) (i : ι) : ℤ := b.stock i + b.total taken i

def Balanced (b : Book κ ι φ) : Prop := ∀ i, b.reserved i = b.total held i

structure Settles (t : Transfer φ) (h : Hold κ ι φ) (b b' : Book κ ι φ) : Prop where
  member : h ∈ b.holds
  expected : h.phase = t.expects
  stock : ∀ i, b'.stock i = b.stock i + if h.item = i then t.stock * h.quantity else 0
  reserved : ∀ i, b'.reserved i = b.reserved i + if h.item = i then t.reserved * h.quantity else 0
  holds : b'.holds = b.holds.map fun g => g.moved h.key t.becomes

structure Opens (h : Hold κ ι φ) (b b' : Book κ ι φ) : Prop where
  held : held h.phase = true
  untaken : taken h.phase = false
  nonnegative : 0 ≤ h.quantity
  stock : ∀ i, b'.stock i = b.stock i
  reserved : ∀ i, b'.reserved i = b.reserved i + if h.item = i then h.quantity else 0
  holds : b'.holds = b.holds ++ [h]

/-- Any other change of the stock, which no hold explains. -/
structure Restocks (b b' : Book κ ι φ) : Prop where
  reserved : b'.reserved = b.reserved
  holds : b'.holds = b.holds

def SettlingBy (t : Transfer φ) (b b' : Book κ ι φ) : Prop := ∃ h, Settles t h b b'

def Settling (b b' : Book κ ι φ) : Prop := ∃ t h, Settles t h b b'

def Opening (b b' : Book κ ι φ) : Prop := ∃ h, Opens h b b'

def Move (b b' : Book κ ι φ) : Prop := Settling b b' ∨ Opening b b'

def Sparing (b b' : Book κ ι φ) : Prop := (∃ t, taken t.expects = false ∧ SettlingBy t b b') ∨ Opening b b'

def Moves : Book κ ι φ → Book κ ι φ → Prop := Relation.ReflTransGen Move

theorem Settles.total {t : Transfer φ} {h : Hold κ ι φ} {b b' : Book κ ι φ} (s : Settles t h b b')
    (w : φ → Bool) (i : ι) :
    b'.total w i = b.total w i +
      if h.item = i then (weight (w t.becomes) - weight (w t.expects)) * h.quantity else 0 := by
  simp only [Book.total, s.holds, List.map_map]
  rw [sum_map_replace b.holds b.nodup_holds s.member
    (fun g => if g.item = i then weight (w g.phase) * g.quantity else 0)]
  · simp only [Function.comp_apply, Hold.moved, if_true, s.expected]
    by_cases here : h.item = i
    · simp only [here, if_true]
      ring
    · simp [here]
  · intro g inside different
    have other : g.key ≠ h.key := fun same => different (b.eq_of_key inside s.member same)
    simp [Hold.moved, other]

omit [DecidableEq κ] in
theorem Opens.total {h : Hold κ ι φ} {b b' : Book κ ι φ} (o : Opens h b b') (w : φ → Bool) (i : ι) :
    b'.total w i = b.total w i + if h.item = i then weight (w h.phase) * h.quantity else 0 := by
  simp [Book.total, o.holds]

theorem Move.slack {b b' : Book κ ι φ} (move : Move b b') (i : ι) : b'.slack i = b.slack i := by
  rcases move with ⟨t, h, settles⟩ | ⟨h, opens⟩
  · simp only [Book.slack, settles.reserved, settles.total, t.reserved_eq]
    split <;> ring
  · simp only [Book.slack, opens.reserved, opens.total, opens.held, weight, if_true]
    split <;> ring

theorem Move.supply {b b' : Book κ ι φ} (move : Move b b') (i : ι) : b'.supply i = b.supply i := by
  rcases move with ⟨t, h, settles⟩ | ⟨h, opens⟩
  · simp only [Book.supply, settles.stock, settles.total, t.stock_eq]
    split <;> ring
  · simp [Book.supply, opens.stock, opens.total, opens.untaken, weight]

theorem Moves.slack {b b' : Book κ ι φ} (moves : Moves b b') (i : ι) : b'.slack i = b.slack i := by
  induction moves with
  | refl => rfl
  | tail _ move ih => rw [move.slack, ih]

theorem Moves.supply {b b' : Book κ ι φ} (moves : Moves b b') (i : ι) : b'.supply i = b.supply i := by
  induction moves with
  | refl => rfl
  | tail _ move ih => rw [move.supply, ih]

omit [DecidableEq κ] in
theorem balanced_iff {b : Book κ ι φ} : b.Balanced ↔ ∀ i, b.slack i = 0 := by
  simp [Balanced, Book.slack, sub_eq_zero]

theorem Moves.balanced {b b' : Book κ ι φ} (moves : Moves b b') (balanced : b.Balanced) :
    b'.Balanced := by
  rw [balanced_iff] at *
  intro i
  rw [moves.slack, balanced]

omit [DecidableEq κ] in
theorem Restocks.balanced {b b' : Book κ ι φ} (restocks : Restocks b b') (balanced : b.Balanced) :
    b'.Balanced := by
  intro i
  rw [restocks.reserved, balanced]
  simp [Book.total, restocks.holds]

theorem SettlingBy.settling {t : Transfer φ} {b b' : Book κ ι φ} (by_t : SettlingBy t b b') : Settling b b' :=
  ⟨t, by_t⟩

theorem Sparing.move {b b' : Book κ ι φ} (sparing : Sparing b b') : Move b b' := by
  rcases sparing with ⟨t, _, settles⟩ | opening
  · exact .inl settles.settling
  · exact .inr opening

theorem Sparing.spares {b b' : Book κ ι φ} (sparing : Sparing b b') {g : Hold κ ι φ} (member : g ∈ b.holds)
    (gone : taken g.phase = true) : g ∈ b'.holds := by
  rcases sparing with ⟨t, untaken, h, settles⟩ | ⟨h, opens⟩
  · have other : g.key ≠ h.key := by
      intro same
      obtain rfl := b.eq_of_key member settles.member same
      rw [settles.expected, untaken] at gone
      cases gone
    rw [settles.holds]
    exact List.mem_map.mpr ⟨g, member, by simp [Hold.moved, other]⟩
  · rw [opens.holds]
    exact List.mem_append_left _ member

theorem sparings_spare {b b' : Book κ ι φ} (moves : Relation.ReflTransGen Sparing b b') {g : Hold κ ι φ}
    (member : g ∈ b.holds) (gone : taken g.phase = true) : g ∈ b'.holds := by
  induction moves with
  | refl => exact member
  | tail _ move ih => exact move.spares ih gone

/-- Each hold of `b` is still there, in the same phase or a later one, and the
holds opened since took nothing. -/
structure Advances (b b' : Book κ ι φ) (f : Hold κ ι φ → Hold κ ι φ) (opened : List (Hold κ ι φ)) :
    Prop where
  holds : b'.holds = b.holds.map f ++ opened
  key : ∀ g, (f g).key = g.key
  item : ∀ g, (f g).item = g.item
  quantity : ∀ g, (f g).quantity = g.quantity
  forward : ∀ g ∈ b.holds, (f g).phase = g.phase ∨ rank g.phase < rank (f g).phase
  untaken : ∀ h ∈ opened, taken h.phase = false

theorem settling_advances {b b' : Book κ ι φ} (moves : Relation.ReflTransGen Settling b b') :
    ∃ f, Advances b b' f [] := by
  induction moves with
  | refl => exact ⟨id, by simp, by simp, by simp, by simp, by simp, by simp⟩
  | @tail mid last _ move ih =>
    obtain ⟨f, adv⟩ := ih
    obtain ⟨t, h, settles⟩ := move
    refine ⟨fun g => (f g).moved h.key t.becomes, ?_, ?_, ?_, ?_, ?_, by simp⟩
    · simp [settles.holds, adv.holds]
    · intro g
      unfold Hold.moved
      split <;> simp [adv.key]
    · intro g
      unfold Hold.moved
      split <;> simp [adv.item]
    · intro g
      unfold Hold.moved
      split <;> simp [adv.quantity]
    · intro g inside
      have present : f g ∈ mid.holds := by
        rw [adv.holds]
        exact List.mem_append_left _ (List.mem_map_of_mem inside)
      unfold Hold.moved
      split
      next same =>
        have this : (f g).phase = t.expects := by
          rw [mid.eq_of_key present settles.member same, settles.expected]
        have forward := t.forward
        rcases adv.forward g inside with still | later
        · right
          rw [← still, this]
          exact forward
        · right
          rw [this] at later
          exact later.trans forward
      next => exact adv.forward g inside

omit [DecidableEq κ] in
theorem opening_advances {b b' : Book κ ι φ} (moves : Relation.ReflTransGen Opening b b') :
    ∃ opened, Advances b b' id opened := by
  induction moves with
  | refl => exact ⟨[], by simp, by simp, by simp, by simp, by simp, by simp⟩
  | tail _ move ih =>
    obtain ⟨opened, adv⟩ := ih
    obtain ⟨h, opens⟩ := move
    refine ⟨opened ++ [h], ?_, adv.key, adv.item, adv.quantity, adv.forward, ?_⟩
    · simp [opens.holds, adv.holds]
    · intro g inside
      rcases List.mem_append.mp inside with old | new
      · exact adv.untaken g old
      · rw [List.mem_singleton.mp new]
        exact opens.untaken

omit [DecidableEq κ] in
theorem Advances.stock {b b' : Book κ ι φ} {f : Hold κ ι φ → Hold κ ι φ} {opened : List (Hold κ ι φ)}
    (adv : Advances b b' f opened) (i : ι) (supply : b'.supply i = b.supply i) :
    b'.stock i = b.stock i - (b.holds.map fun g => if g.item = i then
      (weight (taken (f g).phase) - weight (taken g.phase)) * g.quantity else 0).sum := by
  have fresh : (opened.map fun h => if h.item = i then weight (taken h.phase) * h.quantity else 0).sum =
      0 := by
    apply List.sum_eq_zero
    intro x inside
    obtain ⟨h, member, rfl⟩ := List.mem_map.mp inside
    simp [adv.untaken h member, weight]
  have changed : b'.total taken i = b.total taken i + (b.holds.map fun g => if g.item = i then
      (weight (taken (f g).phase) - weight (taken g.phase)) * g.quantity else 0).sum := by
    simp only [Book.total, adv.holds, List.map_append, List.sum_append, List.map_map, fresh, add_zero]
    rw [← List.sum_map_add]
    congr 1
    apply List.map_congr_left
    intro g _
    simp only [Function.comp_apply, adv.item, adv.quantity]
    split <;> ring
  simp only [Book.supply] at supply
  omega

theorem Moves.nonnegative {b b' : Book κ ι φ} (moves : Moves b b')
    (before : ∀ h ∈ b.holds, 0 ≤ h.quantity) : ∀ h ∈ b'.holds, 0 ≤ h.quantity := by
  induction moves with
  | refl => exact before
  | tail _ move ih =>
    intro g inside
    rcases move with ⟨t, h, settles⟩ | ⟨h, opens⟩
    · rw [settles.holds] at inside
      obtain ⟨old, member, rfl⟩ := List.mem_map.mp inside
      unfold Hold.moved
      split <;> exact ih old member
    · rw [opens.holds] at inside
      rcases List.mem_append.mp inside with old | new
      · exact ih g old
      · rw [List.mem_singleton.mp new]
        exact opens.nonnegative

omit [DecidableEq κ] [Phases φ] in
theorem total_nonnegative (b : Book κ ι φ) (w : φ → Bool) (i : ι)
    (holds : ∀ h ∈ b.holds, 0 ≤ h.quantity) : 0 ≤ b.total w i := by
  apply List.sum_nonneg
  intro x inside
  obtain ⟨h, member, rfl⟩ := List.mem_map.mp inside
  have quantity := holds h member
  unfold weight
  split
  · split <;> simp [quantity]
  · exact le_refl 0

end Book

end Ledger
