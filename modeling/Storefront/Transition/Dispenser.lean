import Mathlib.Data.List.Nodup
import Mathlib.Logic.Function.Basic

set_option autoImplicit false

/-!
# Dispensers

Counters that hand out numbers. Who holds a number uses it later, or never, in any order.
-/

namespace Transition

variable {κ ι : Type}

structure Dispenser (κ ι : Type) where
  next : κ → Option Nat
  held : ι → Option (κ × Nat)
  used : List (κ × Nat)
  -- All that was handed out, oldest first.
  drawn : List (κ × Nat)

section

variable [DecidableEq κ]

def numbersOf (k : κ) (l : List (κ × Nat)) : List Nat := (l.filter fun p => p.1 = k).map Prod.snd

theorem mem_numbersOf {k : κ} {l : List (κ × Nat)} {n : Nat} : n ∈ numbersOf k l ↔ (k, n) ∈ l := by
  simp only [numbersOf, List.mem_map, List.mem_filter, decide_eq_true_eq]
  constructor
  · rintro ⟨⟨_, _⟩, ⟨inside, rfl⟩, rfl⟩
    exact inside
  · exact fun inside => ⟨(k, n), ⟨inside, rfl⟩, rfl⟩

theorem numbersOf_snoc (k : κ) (l : List (κ × Nat)) (p : κ × Nat) :
    numbersOf k (l ++ [p]) = numbersOf k l ++ if p.1 = k then [p.2] else [] := by
  by_cases its : p.1 = k <;> simp [numbersOf, its]

end

-- Rows filed under an owner's numbers: those of one owner have different numbers.
theorem numbers_nodup {ρ τ : Type} [DecidableEq τ] {rows : List ρ} {owner : ρ → τ} {number : ρ → Nat}
    {filed : ρ → κ × Nat} (once : (rows.map filed).Nodup)
    (same : ∀ r r', owner r = owner r' → number r = number r' → filed r = filed r') (t : τ) :
    ((rows.filter fun r => owner r = t).map number).Nodup := by
  refine List.Nodup.map_on (fun r inside r' inside' equal => ?_) ((List.Nodup.of_map _ once).filter _)
  simp only [List.mem_filter, decide_eq_true_eq] at inside inside'
  have filed := same r r' (inside.2.trans inside'.2.symm) equal
  exact List.inj_on_of_nodup_map once inside.1 inside'.1 filed

namespace Dispenser

variable {first : Nat} {d d' : Dispenser κ ι}

theorem held_after [DecidableEq ι] {i j : ι} {p : κ × Nat} (holds : Function.update d.held i none j = some p) :
    j ≠ i ∧ d.held j = some p := by
  by_cases same : j = i
  · subst same
    rw [Function.update_self] at holds
    cases holds
  · exact ⟨same, (Function.update_of_ne same none d.held).symm.trans holds⟩

section

variable [DecidableEq κ]

-- A counter has handed out all numbers from the first on, each once.
def Counts (first : Nat) (d : Dispenser κ ι) (k : κ) : Prop :=
  ∃ count, numbersOf k d.drawn = List.range' first count ∧
    (d.next k = some (first + count) ∨ d.next k = none ∧ count = 0)

structure Sound (first : Nat) (d : Dispenser κ ι) : Prop where
  counts : ∀ k, d.Counts first k
  used : ∀ p ∈ d.used, p ∈ d.drawn
  held : ∀ i p, d.held i = some p → p ∈ d.drawn
  unused : ∀ i p, d.held i = some p → p ∉ d.used
  alone : ∀ i j p, d.held i = some p → d.held j = some p → i = j
  once : d.used.Nodup

inductive Takes [DecidableEq ι] (first : Nat) (d : Dispenser κ ι) : Dispenser κ ι → Prop
  | stay : Takes first d d
  | create (k : κ) (missing : d.next k = none) :
      Takes first d { d with next := Function.update d.next k (some first) }
  | draw (i : ι) (k : κ) (n : Nat) (free : d.held i = none) (at_k : d.next k = some n) :
      Takes first d { d with
        next := Function.update d.next k (some (n + 1))
        held := Function.update d.held i (some (k, n))
        drawn := d.drawn ++ [(k, n)] }
  | use (i : ι) (p : κ × Nat) (holds : d.held i = some p) :
      Takes first d { d with held := Function.update d.held i none, used := d.used ++ [p] }
  | drop (i : ι) : Takes first d { d with held := Function.update d.held i none }

theorem sound_empty (next : ∀ k, d.next k = none) (held : ∀ i, d.held i = none) (used : d.used = [])
    (drawn : d.drawn = []) : d.Sound first := by
  have absurd_held {i : ι} {p : κ × Nat} {Q : Prop} (holds : d.held i = some p) : Q := by
    rw [held i] at holds
    cases holds
  exact {
    counts := fun k => ⟨0, by rw [drawn]; rfl, .inr ⟨next k, rfl⟩⟩
    used := fun p inside => by rw [used] at inside; cases inside
    held := fun i p holds => absurd_held holds
    unused := fun i p holds => absurd_held holds
    alone := fun i j p holds => absurd_held holds
    once := used ▸ List.nodup_nil }

theorem Counts.top {k : κ} {n : Nat} (counts : d.Counts first k) (at_k : d.next k = some n) :
    ∃ count, n = first + count ∧ numbersOf k d.drawn = List.range' first count := by
  obtain ⟨count, numbers, top | ⟨missing, _⟩⟩ := counts
  · exact ⟨count, Option.some.inj (at_k.symm.trans top), numbers⟩
  · rw [missing] at at_k
    cases at_k

theorem Counts.fresh {k : κ} {n : Nat} (counts : d.Counts first k) (at_k : d.next k = some n) : (k, n) ∉ d.drawn := by
  obtain ⟨count, rfl, numbers⟩ := counts.top at_k
  rw [← mem_numbersOf, numbers, List.mem_range'_1]
  omega

variable [DecidableEq ι]

theorem Takes.counts (takes : Takes first d d') (counts : ∀ k, d.Counts first k) (k : κ) : d'.Counts first k := by
  obtain ⟨count, numbers, state⟩ := counts k
  cases takes with
  | stay | use | drop => exact ⟨count, numbers, state⟩
  | create k' missing =>
    by_cases same : k = k'
    · subst same
      rcases state with top | ⟨_, rfl⟩
      · rw [missing] at top
        cases top
      · exact ⟨0, numbers, .inl (Function.update_self ..)⟩
    · exact ⟨count, numbers, by simpa only [Function.update_of_ne same] using state⟩
  | draw i k' n free at_k =>
    by_cases same : k = k'
    · subst same
      obtain ⟨count, rfl, numbers⟩ := (counts k).top at_k
      refine ⟨count + 1, ?_, .inl (Function.update_self ..)⟩
      simp only [numbersOf_snoc, numbers, if_true, List.range'_concat, Nat.one_mul]
    · refine ⟨count, ?_, by simpa only [Function.update_of_ne same] using state⟩
      simp only [numbersOf_snoc, if_neg (Ne.symm same), List.append_nil]
      exact numbers

theorem Takes.sound (takes : Takes first d d') (sound : d.Sound first) : d'.Sound first := by
  have counts := takes.counts sound.counts
  cases takes with
  | stay => exact sound
  | create k missing => exact { sound with counts := counts }
  | draw i k n free at_k =>
    have fresh := (sound.counts k).fresh at_k
    -- Nobody held or used the number before.
    have before {j : ι} {p : κ × Nat} (holds : Function.update d.held i (some (k, n)) j = some p) :
        j = i ∧ p = (k, n) ∨ j ≠ i ∧ d.held j = some p := by
      by_cases same : j = i
      · subst same
        rw [Function.update_self] at holds
        exact .inl ⟨rfl, (Option.some.inj holds).symm⟩
      · exact .inr ⟨same, (Function.update_of_ne same _ d.held).symm.trans holds⟩
    refine ⟨counts, fun p inside => List.mem_append_left _ (sound.used p inside), ?_, ?_, ?_, sound.once⟩
    · intro j p holds
      rcases before holds with ⟨_, rfl⟩ | ⟨_, holds⟩
      · exact List.mem_append_right _ (List.mem_singleton_self _)
      · exact List.mem_append_left _ (sound.held j p holds)
    · intro j p holds inside
      rcases before holds with ⟨_, rfl⟩ | ⟨_, holds⟩
      · exact fresh (sound.used _ inside)
      · exact sound.unused j p holds inside
    · intro j j' p left right
      rcases before left with ⟨rfl, rfl⟩ | ⟨_, holds⟩ <;> rcases before right with ⟨rfl, same⟩ | ⟨_, holds'⟩
      · rfl
      · exact absurd (sound.held _ _ holds') fresh
      · exact absurd (sound.held _ _ (same ▸ holds)) fresh
      · exact sound.alone j j' p holds holds'
  | use i p holds =>
    refine ⟨counts, ?_, ?_, ?_, ?_, ?_⟩
    · intro q inside
      rcases List.mem_append.mp inside with inside | last
      · exact sound.used q inside
      · exact List.mem_singleton.mp last ▸ sound.held i p holds
    · exact fun j q others => sound.held j q (held_after others).2
    · intro j q others inside
      obtain ⟨other, others⟩ := held_after others
      rcases List.mem_append.mp inside with inside | last
      · exact sound.unused j q others inside
      · exact other (sound.alone j i q others (List.mem_singleton.mp last ▸ holds))
    · exact fun j j' q left right => sound.alone j j' q (held_after left).2 (held_after right).2
    · exact List.nodup_append.mpr ⟨sound.once, List.nodup_singleton p, fun q inside r last same =>
        sound.unused i p holds (List.mem_singleton.mp last ▸ same ▸ inside)⟩
  | drop i =>
    exact ⟨counts, sound.used, fun j q others => sound.held j q (held_after others).2,
      fun j q others => sound.unused j q (held_after others).2,
      fun j j' q left right => sound.alone j j' q (held_after left).2 (held_after right).2, sound.once⟩

end

end Dispenser

end Transition
