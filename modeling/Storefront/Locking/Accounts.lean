import Mathlib.Algebra.BigOperators.Group.Finset.Basic
import Storefront.Locking.Sessions

set_option autoImplicit false

/-!
# Transactions that move an amount between rows

A weight on rows gives every database a total. Transactions that read without
locking may still keep it, as long as what they update is what they expect.
-/

namespace Locking

open Transition

variable {τ κ : Type} {ν : κ → Type} {ρ ε : Type}

/-- The weight of each row, and the rows there can be. Only finitely many count. -/
structure Account (κ : Type) (ν : κ → Type) where
  sane : ∀ k, ν k → Prop
  weight : ∀ k, ν k → Int
  keys : Finset κ
  outside : ∀ k v, k ∉ keys → sane k v → weight k v = 0

variable (acc : Account κ ν)

namespace Account

def total (base : ∀ k, ν k) : Int := ∑ k ∈ acc.keys, acc.weight k (base k)

def drift (l : Local κ ν ρ ε) (base : ∀ k, ν k) : Int := acc.total (l.view base) - acc.total base

variable {acc}

theorem drift_congr {l : Local κ ν ρ ε} {base base' : ∀ k, ν k}
    (same : ∀ k, (l.work k).isSome = true → base' k = base k) : acc.drift l base' = acc.drift l base := by
  simp only [drift, total, ← Finset.sum_sub_distrib]
  refine Finset.sum_congr rfl fun k _ => ?_
  cases own : l.work k with
  | none => simp [Local.view_free own]
  | some v => simp [Local.view_of_work own, same k (by simp [own])]

theorem total_update [DecidableEq κ] {base : ∀ k, ν k} {k : κ} {v : ν k} (sane : acc.sane k v)
    (before : acc.sane k (base k)) :
    acc.total (Function.update base k v) = acc.total base + (acc.weight k v - acc.weight k (base k)) := by
  by_cases inside : k ∈ acc.keys
  · have rest : ∑ j ∈ acc.keys.erase k, acc.weight j (Function.update base k v j) =
        ∑ j ∈ acc.keys.erase k, acc.weight j (base j) := by
      refine Finset.sum_congr rfl fun j member => ?_
      rw [Function.update_of_ne (Finset.ne_of_mem_erase member)]
    have new := Finset.add_sum_erase acc.keys (fun j => acc.weight j (Function.update base k v j)) inside
    have old := Finset.add_sum_erase acc.keys (fun j => acc.weight j (base j)) inside
    simp only [Function.update_self] at new
    simp only [total]
    omega
  · have same : acc.total (Function.update base k v) = acc.total base := by
      refine Finset.sum_congr rfl fun j member => ?_
      have other : j ≠ k := fun same => inside (same ▸ member)
      rw [Function.update_of_ne other]
    rw [same, acc.outside k v inside sane, acc.outside k (base k) inside before]
    omega

theorem drift_write [DecidableEq κ] {l : Local κ ν ρ ε} {base : ∀ k, ν k} {k : κ} {v : ν k}
    (sane : acc.sane k v) (before : acc.sane k (l.view base k)) :
    acc.drift (l.write k v) base = acc.drift l base + (acc.weight k v - acc.weight k (l.view base k)) := by
  have updated : (l.write k v).view base = Function.update (l.view base) k v := overlay_update l.work base k v
  simp only [drift, updated, total_update sane before]
  omega

theorem drift_goto {l : Local κ ν ρ ε} {base : ∀ k, ν k} {p : Program κ ν ρ ε} :
    acc.drift (l.goto p) base = acc.drift l base := rfl

end Account

namespace Program

variable [DecidableEq κ]

-- What a transaction may see of a row: its own copy, or any row there can be.
def Seen (work : Work κ ν) (k : κ) (v : ν k) : Prop := acc.sane k v ∧ ∀ own, work k = some own → v = own

/-- From here, with this drift, a transaction whose updates find what they may find
writes rows there can be and commits with the total unchanged. -/
def Balances (may : ∀ k, ν k → Bool) : Program κ ν ρ ε → Work κ ν → Int → Prop
  | .select k wanted _ next, work, drift => (next none).Balances may work drift ∧
      ∀ v, Seen acc work k v → wanted v = true → (next (some v)).Balances may (Function.update work k (some v)) drift
  | .read k next, work, drift => ∀ v, Seen acc work k v → (next v).Balances may work drift
  | .update k wanted set next, work, drift => ∀ v, Seen acc work k v →
      (wanted v = false → next.Balances may work drift) ∧
      (wanted v = true → may k v = true → ∀ v', set v = .ok v' → acc.sane k v' ∧
        next.Balances may (Function.update work k (some v')) (drift + (acc.weight k v' - acc.weight k v)))
  | .insert _ next, work, drift => next.Balances may work drift
  | .commit, _, drift => drift = 0
  | .raise _, _, _ => True

end Program

namespace Local

variable [DecidableEq κ] {acc}

structure InBalance (acc : Account κ ν) (may : ∀ k, ν k → Bool) (l : Local κ ν ρ ε) (base : ∀ k, ν k) : Prop where
  copies : ∀ k v, l.work k = some v → acc.sane k v
  rest : l.rest.Balances acc may l.work (acc.drift l base)

def finds (may : ∀ k, ν k → Bool) (l : Local κ ν ρ ε) (base : ∀ k, ν k) : Bool :=
  match l.rest with
  | .update k wanted _ _ => !wanted (l.view base k) || may k (l.view base k)
  | _ => true

variable {may : ∀ k, ν k → Bool} {l l' : Local κ ν ρ ε} {base base' : ∀ k, ν k} {free : κ → Bool}

theorem InBalance.seen (balance : l.InBalance acc may base) (sane : ∀ k, acc.sane k (base k)) (k : κ) :
    Program.Seen acc l.work k (l.view base k) := by
  cases own : l.work k with
  | none => exact ⟨view_free own ▸ sane k, fun v copied => by simp [own] at copied⟩
  | some v =>
    rw [view_of_work own]
    refine ⟨balance.copies k v own, fun v' copied => ?_⟩
    rw [own] at copied
    exact Option.some.inj copied

theorem InBalance.congr (balance : l.InBalance acc may base)
    (same : ∀ k, (l.work k).isSome = true → base' k = base k) : l.InBalance acc may base' :=
  ⟨balance.copies, (Account.drift_congr same).symm ▸ balance.rest⟩

theorem copies_write {k : κ} {v : ν k} (copies : ∀ k v, l.work k = some v → acc.sane k v) (sane : acc.sane k v) :
    ∀ j u, (l.write k v).work j = some u → acc.sane j u := by
  intro j u own
  by_cases here : j = k
  · subst here
    obtain rfl : v = u := by simpa [write] using own
    exact sane
  · exact copies j u (by simpa [write, here] using own)

theorem InBalance.step (balance : l.InBalance acc may base) (sane : ∀ k, acc.sane k (base k))
    (finds : l.finds may base = true) (steps : Steps base free l l') : l'.InBalance acc may base := by
  have rest := balance.rest
  have seen (k : κ) := balance.seen sane k
  cases steps with
  | locked k wanted skipLocked next at_ met open_ =>
    rw [at_] at rest
    refine ⟨copies_write balance.copies (seen k).1, ?_⟩
    have kept : acc.drift (l.write k (l.view base k)) base = acc.drift l base := by
      rw [Account.drift_write (seen k).1 (seen k).1]
      omega
    rw [Account.drift_goto, kept]
    exact rest.2 _ (seen k) met
  | skipped k wanted next at_ | unwanted k wanted skipLocked next at_ =>
    rw [at_] at rest
    exact ⟨balance.copies, rest.1⟩
  | read k next at_ =>
    rw [at_] at rest
    exact ⟨balance.copies, rest _ (seen k)⟩
  | updated k wanted set next v at_ met open_ new =>
    rw [at_] at rest
    have allowed : may k (l.view base k) = true := by simpa [Local.finds, at_, met] using finds
    obtain ⟨good, later⟩ := (rest _ (seen k)).2 met allowed v new
    refine ⟨copies_write balance.copies good, ?_⟩
    rw [Account.drift_goto, Account.drift_write good (seen k).1]
    exact later
  | refused k wanted set next e at_ met open_ raised =>
    exact ⟨copies_write balance.copies (seen k).1, trivial⟩
  | unmatched k wanted set next at_ unmet =>
    rw [at_] at rest
    exact ⟨balance.copies, (rest _ (seen k)).1 unmet⟩
  | inserted row next at_ =>
    rw [at_] at rest
    exact ⟨balance.copies, rest⟩

end Local

namespace Sessions

variable [DecidableEq τ] [DecidableEq κ] {acc}

structure Accounted (acc : Account κ ν) (may : τ → ∀ k, ν k → Bool) (s : Sessions τ κ ν ρ ε) : Prop
    extends Owned s where
  sane : ∀ k, acc.sane k (s.base k)
  balance : ∀ t, s.ended t = none → (s.session t).InBalance acc (may t) s.base

def finds (may : τ → ∀ k, ν k → Bool) (s : Sessions τ κ ν ρ ε) : Action τ → Bool
  | .run t => (s.session t).finds (may t) s.base
  | .kill _ => true

variable {may : τ → ∀ k, ν k → Bool} {s s' : Sessions τ κ ν ρ ε} {a : Action τ} {programs : τ → Program κ ν ρ ε}

omit [DecidableEq τ] in
theorem Accounted.start (initial : s.Initial programs) (sane : ∀ k, acc.sane k (s.base k))
    (balances : ∀ t, (programs t).Balances acc (may t) (fun _ => none) 0) : s.Accounted acc may := by
  refine ⟨.start initial, sane, fun t _ => ?_⟩
  rw [initial.session t]
  refine ⟨fun k v own => by simp [Local.start] at own, ?_⟩
  have still : acc.drift (Local.start (programs t)) s.base = 0 := by
    have same : (Local.start (programs t)).view s.base = s.base := rfl
    simp [Account.drift, same]
  rw [still]
  exact balances t

theorem Accounted.step (good : s.Accounted acc may) (finds : s.finds may a = true) (acts : Acts s a s') :
    s'.Accounted acc may ∧ acc.total s'.base = acc.total s.base := by
  have owned := good.toOwned.step acts
  have kept {t : τ} (alive : s'.ended t = none) {k : κ} := good.keeps_locked acts alive (k := k)
  cases acts with
  | advanced t l live steps =>
    refine ⟨⟨owned, good.sane, fun u alive => ?_⟩, rfl⟩
    by_cases same : u = t
    · subst same
      simp only [advance, Function.update_self]
      exact (good.balance u live).step good.sane finds steps
    · simp only [advance, Function.update_of_ne same]
      exact good.balance u alive
  | committed t live at_ =>
    have mine := good.balance t live
    refine ⟨⟨owned, fun k => ?_, fun u alive => ?_⟩, ?_⟩
    · cases own : (s.session t).work k with
      | none => simpa [commit, overlay, own] using good.sane k
      | some v => simpa [commit, overlay, own] using mine.copies k v own
    · have before := (alive_of_stop alive).2
      exact (good.balance u before).congr fun k own => (kept alive (good.owned u before k own)).2
    · have even := mine.rest
      rw [at_] at even
      have total : acc.total ((s.session t).view s.base) - acc.total s.base = 0 := even
      change acc.total ((s.session t).view s.base) = _
      omega
  | raised t _ _ _ | killed t _ =>
    exact ⟨⟨owned, good.sane, fun u alive => good.balance u (alive_of_stop alive).2⟩, rfl⟩

/-- Transactions that balance keep the total, whatever their interleaving, as long as
their updates find what they may find. -/
theorem accounts {s₀ : Sessions τ κ ν ρ ε} {moves : List (Move (Sessions τ κ ν ρ ε) (Action τ))}
    (sane : ∀ k, acc.sane k (s₀.base k)) (balances : ∀ t, (programs t).Balances acc (may t) (fun _ => none) 0)
    (run : (machine programs).Run s₀ moves s) (finds : ∀ move ∈ moves, move.before.finds may move.label = true) :
    s.Accounted acc may ∧ acc.total s.base = acc.total s₀.base := by
  induction run with
  | start initial => exact ⟨.start initial sane balances, rfl⟩
  | step _ taken ih =>
    obtain ⟨good, same⟩ := ih fun move member => finds move (by simp [member])
    have last := finds _ (List.mem_append_right _ (List.mem_singleton_self _))
    obtain ⟨good', same'⟩ := good.step last (step_acts taken)
    exact ⟨good', same'.trans same⟩

end Sessions

end Locking
