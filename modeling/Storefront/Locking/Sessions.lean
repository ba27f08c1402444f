import Storefront.Locking.Programs
import Storefront.Transition.Machine

set_option autoImplicit false

/-!
# Transactions side by side

Each action is one statement of one transaction. A row stays locked until the
transaction that locked it commits, raises or is killed.
-/

namespace Locking

open Transition

variable {τ κ : Type} {ν : κ → Type} {ρ ε σ : Type}

inductive End (ε : Type)
  | committed
  | raised (e : ε)
  -- A deadlock victim, a timeout, a lost connection.
  | killed
deriving DecidableEq

structure Sessions (τ κ : Type) (ν : κ → Type) (ρ ε : Type) where
  base : ∀ k, ν k
  table : List ρ
  owner : κ → Option τ
  session : τ → Local κ ν ρ ε
  ended : τ → Option (End ε)
  log : List τ

inductive Action (τ : Type)
  | run (t : τ)
  | kill (t : τ)

namespace Sessions

variable [DecidableEq τ]

def free (s : Sessions τ κ ν ρ ε) (t : τ) (k : κ) : Bool :=
  match s.owner k with
  | none => true
  | some u => u == t

def advance (s : Sessions τ κ ν ρ ε) (t : τ) (l : Local κ ν ρ ε) : Sessions τ κ ν ρ ε :=
  { s with
    session := Function.update s.session t l
    owner := fun k => if (l.work k).isSome then some t else s.owner k }

def stop (s : Sessions τ κ ν ρ ε) (t : τ) (how : End ε) : Sessions τ κ ν ρ ε :=
  { s with
    owner := fun k => if s.owner k = some t then none else s.owner k
    ended := Function.update s.ended t (some how) }

def commit (s : Sessions τ κ ν ρ ε) (t : τ) : Sessions τ κ ν ρ ε :=
  { s.stop t .committed with
    base := overlay (s.session t).work s.base
    table := s.table ++ (s.session t).inserted
    log := s.log ++ [t] }

theorem free_iff {s : Sessions τ κ ν ρ ε} {t : τ} {k : κ} : s.free t k = true ↔ s.owner k = none ∨ s.owner k = some t := by
  unfold free
  cases s.owner k <;> simp

theorem alive_of_stop {s : Sessions τ κ ν ρ ε} {t u : τ} {how : End ε} (live : (s.stop t how).ended u = none) :
    u ≠ t ∧ s.ended u = none := by
  by_cases same : u = t
  · simp [stop, same] at live
  · exact ⟨same, by simpa [stop, same] using live⟩

variable [DecidableEq κ]

def step (s : Sessions τ κ ν ρ ε) : Action τ → Option (Sessions τ κ ν ρ ε)
  | .run t => match s.ended t with
    | some _ => none
    | none => match (s.session t).rest with
      | .commit => some (s.commit t)
      | .raise e => some (s.stop t (.raised e))
      | _ => ((s.session t).step s.base (s.free t)).map (s.advance t)
  | .kill t => match s.ended t with
    | some _ => none
    | none => some (s.stop t .killed)

-- Every transaction is about to begin.
structure Initial (programs : τ → Program κ ν ρ ε) (s : Sessions τ κ ν ρ ε) : Prop where
  owner : ∀ k, s.owner k = none
  session : ∀ t, s.session t = .start (programs t)
  ended : ∀ t, s.ended t = none
  log : s.log = []

def machine (programs : τ → Program κ ν ρ ε) : Machine (Sessions τ κ ν ρ ε) (Action τ) where
  Start := Initial programs
  step := step

inductive Acts (s : Sessions τ κ ν ρ ε) : Action τ → Sessions τ κ ν ρ ε → Prop
  | advanced (t : τ) (l : Local κ ν ρ ε) (live : s.ended t = none)
      (steps : Local.Steps s.base (s.free t) (s.session t) l) : Acts s (.run t) (s.advance t l)
  | committed (t : τ) (live : s.ended t = none) (at_ : (s.session t).rest = .commit) :
      Acts s (.run t) (s.commit t)
  | raised (t : τ) (e : ε) (live : s.ended t = none) (at_ : (s.session t).rest = .raise e) :
      Acts s (.run t) (s.stop t (.raised e))
  | killed (t : τ) (live : s.ended t = none) : Acts s (.kill t) (s.stop t .killed)

theorem step_acts {s s' : Sessions τ κ ν ρ ε} {a : Action τ} (taken : s.step a = some s') : Acts s a s' := by
  cases a with
  | run t =>
    simp only [step] at taken
    split at taken
    · cases taken
    next live =>
      split at taken
      next at_ =>
        cases taken
        exact .committed t live at_
      next e at_ =>
        cases taken
        exact .raised t e live at_
      · obtain ⟨l, moved, rfl⟩ := Option.map_eq_some_iff.mp taken
        exact .advanced t l live (Local.step_cases moved)
  | kill t =>
    simp only [step] at taken
    split at taken
    · cases taken
    next live =>
      cases taken
      exact .killed t live

end Sessions

/-- The transactions of a list, one after the other. -/
inductive Serial [DecidableEq κ] (programs : τ → Program κ ν ρ ε) (base₀ : ∀ k, ν k) (table₀ : List ρ) :
    List τ → (∀ k, ν k) → List ρ → Prop
  | nil : Serial programs base₀ table₀ [] base₀ table₀
  | snoc {log : List τ} {base : ∀ k, ν k} {table : List ρ} {t : τ} {work : Work κ ν} {rows : List ρ}
      (before : Serial programs base₀ table₀ log base table)
      (alone : (programs t).alone base (fun _ => none) [] = .ok (work, rows)) :
      Serial programs base₀ table₀ (log ++ [t]) (overlay work base) (table ++ rows)

namespace Sessions

variable [DecidableEq τ] [DecidableEq κ]

structure Owned (s : Sessions τ κ ν ρ ε) : Prop where
  owned : ∀ t, s.ended t = none → ∀ k, ((s.session t).work k).isSome = true → s.owner k = some t
  works : ∀ t k, s.owner k = some t → ((s.session t).work k).isSome = true

structure Sound (programs : τ → Program κ ν ρ ε) (s : Sessions τ κ ν ρ ε) : Prop extends Owned s where
  reaches : ∀ t, s.ended t = none → Local.Reaches s.base (programs t) (s.session t)

variable {programs : τ → Program κ ν ρ ε} {s s' : Sessions τ κ ν ρ ε} {a : Action τ} {shape : ∀ k, ν k → σ}

namespace Owned

omit [DecidableEq τ] [DecidableEq κ] in
theorem start (initial : s.Initial programs) : s.Owned := by
  refine ⟨fun t _ k own => ?_, fun t k own => ?_⟩
  · simp [initial.session t, Local.start] at own
  · simp [initial.owner] at own

omit [DecidableEq κ] in
theorem stop (owned : s.Owned) (t : τ) (how : End ε) : (s.stop t how).Owned := by
  refine ⟨fun u live k own => ?_, fun u k own => ?_⟩
  · have before := owned.owned u (alive_of_stop live).2 k own
    simp [Sessions.stop, before, (alive_of_stop live).1]
  · refine owned.works u k ?_
    simp only [Sessions.stop] at own
    split at own
    · cases own
    · exact own

theorem apart (owned : s.Owned) {t u : τ} {k : κ} {l : Local κ ν ρ ε} (live : s.ended t = none)
    (steps : Local.Steps s.base (s.free t) (s.session t) l) (mine : (l.work k).isSome = true)
    (theirs : s.owner k = some u) : u = t := by
  rcases (steps.work_iff k).2 mine with before | open_
  · have owner := owned.owned t live k before
    rw [theirs] at owner
    exact Option.some.inj owner
  · rcases free_iff.mp open_ with none | owner
    · simp [theirs] at none
    · rw [theirs] at owner
      exact Option.some.inj owner

theorem step (owned : s.Owned) (acts : Acts s a s') : s'.Owned := by
  cases acts with
  | advanced t l live steps =>
    refine ⟨fun u alive k own => ?_, fun u k own => ?_⟩
    · by_cases same : u = t
      · subst same
        have mine : (l.work k).isSome = true := by simpa [advance] using own
        simp [advance, mine]
      · have theirs : ((s.session u).work k).isSome = true := by simpa [advance, same] using own
        have owner := owned.owned u alive k theirs
        have free : ¬ (l.work k).isSome = true := fun mine => same (owned.apart live steps mine owner)
        simp [advance, free, owner]
    · by_cases mine : (l.work k).isSome = true
      · obtain rfl : t = u := by simpa [advance, mine] using own
        simpa [advance] using mine
      · have theirs := owned.works u k (by simpa [advance, mine] using own)
        have same : u ≠ t := fun same => mine ((steps.work_iff k).1 (same ▸ theirs))
        simpa [advance, same] using theirs
  | committed t live at_ =>
    have stopped := owned.stop t .committed
    exact ⟨stopped.owned, stopped.works⟩
  | raised t e live at_ => exact owned.stop t _
  | killed t live => exact owned.stop t _

theorem keeps_locked {t : τ} (owned : s.Owned) (acts : Acts s a s') (still : s'.ended t = none) {k : κ}
    (mine : s.owner k = some t) : s'.owner k = some t ∧ s'.base k = s.base k := by
  cases acts with
  | advanced u l live steps =>
    refine ⟨?_, rfl⟩
    by_cases locked : (l.work k).isSome = true
    · simp [advance, locked, owned.apart live steps locked mine]
    · simp [advance, locked, mine]
  | committed u alive at_ =>
    have other := (alive_of_stop still).1
    have owner : (s.commit u).owner k = some t := by simp [commit, Sessions.stop, mine, other]
    refine ⟨owner, ?_⟩
    cases copied : (s.session u).work k with
    | none => simp [commit, overlay, copied]
    | some v =>
      have theirs := owned.owned u alive k (by simp [copied])
      rw [mine] at theirs
      exact absurd (Option.some.inj theirs) other
  | raised u _ _ _ | killed u _ =>
    have other := (alive_of_stop still).1
    exact ⟨by simp [Sessions.stop, mine, other], rfl⟩

end Owned

omit [DecidableEq τ] in
theorem Sound.start (initial : s.Initial programs) : s.Sound programs := by
  refine ⟨.start initial, fun t _ => ?_⟩
  rw [initial.session t]
  exact .start

theorem Sound.commit_shape (sound : s.Sound programs) {t : τ} (good : (programs t).Disciplined shape)
    (live : s.ended t = none) (k : κ) : shape k ((s.commit t).base k) = shape k (s.base k) := by
  cases copied : (s.session t).work k with
  | none => simp [commit, overlay, copied]
  | some v => simpa [commit, overlay, copied] using (sound.reaches t live).shapes good k v copied

theorem Sound.step (good : ∀ t, (programs t).Disciplined shape) (sound : s.Sound programs) (acts : Acts s a s') :
    s'.Sound programs := by
  refine ⟨sound.toOwned.step acts, fun u alive => ?_⟩
  have kept {k : κ} := sound.keeps_locked acts alive (k := k)
  cases acts with
  | advanced t l live steps =>
    by_cases same : u = t
    · subst same
      simp only [advance, Function.update_self]
      exact .step _ (sound.reaches u live) steps
    · simp only [advance, Function.update_of_ne same]
      exact sound.reaches u alive
  | committed t live at_ =>
    have before := (alive_of_stop alive).2
    exact (sound.reaches u before).stable (good u) (fun k own => (kept (sound.owned u before k own)).2)
      fun k => sound.commit_shape (good t) live k
  | raised t e live at_ | killed t live => exact sound.reaches u (alive_of_stop alive).2

structure Logged (programs : τ → Program κ ν ρ ε) (base₀ : ∀ k, ν k) (table₀ : List ρ)
    (s : Sessions τ κ ν ρ ε) : Prop where
  serial : Serial programs base₀ table₀ s.log s.base s.table
  nodup : s.log.Nodup
  mem : ∀ t, t ∈ s.log ↔ s.ended t = some .committed

theorem Logged.step {base₀ : ∀ k, ν k} {table₀ : List ρ} (good : ∀ t, (programs t).Disciplined shape)
    (sound : s.Sound programs) (logged : s.Logged programs base₀ table₀) (acts : Acts s a s') :
    s'.Logged programs base₀ table₀ := by
  have stopped {t : τ} {how : End ε} (live : s.ended t = none) (other : how ≠ .committed) :
      (s.stop t how).Logged programs base₀ table₀ := by
    refine ⟨logged.serial, logged.nodup, fun u => ?_⟩
    by_cases same : u = t
    · subst same
      simp [stop, logged.mem, live, other]
    · simp [stop, same, logged.mem]
  cases acts with
  | advanced t l live steps => exact ⟨logged.serial, logged.nodup, logged.mem⟩
  | committed t live at_ =>
    have ends : (programs t).alone s.base (fun _ => none) [] = .ok ((s.session t).work, (s.session t).inserted) := by
      rw [← (sound.reaches t live).outcome (good t), Local.outcome, at_]
      rfl
    have fresh : t ∉ s.log := by simp [logged.mem, live]
    refine ⟨.snoc logged.serial ends, ?_, fun u => ?_⟩
    · exact List.nodup_append.mpr ⟨logged.nodup, by simp, by simp; exact fun u member same => fresh (same ▸ member)⟩
    · by_cases same : u = t
      · simp [commit, stop, same]
      · simp [commit, stop, same, logged.mem]
  | raised t e live at_ => exact stopped live (by simp)
  | killed t live => exact stopped live (by simp)

/-- Disciplined transactions are serializable: whatever their interleaving, the
committed rows are those of the committed transactions run one after the other, in
the order of their commits. -/
theorem serializable {s₀ : Sessions τ κ ν ρ ε} {moves : List (Move (Sessions τ κ ν ρ ε) (Action τ))}
    (good : ∀ t, (programs t).Disciplined shape) (run : (machine programs).Run s₀ moves s) :
    s.Sound programs ∧ s.Logged programs s₀.base s₀.table := by
  induction run with
  | start initial =>
    refine ⟨.start initial, ?_, ?_, fun t => ?_⟩
    · rw [initial.log]
      exact .nil
    · simp [initial.log]
    · simp [initial.log, initial.ended]
  | step _ taken ih =>
    have acts := step_acts taken
    exact ⟨ih.1.step good acts, ih.2.step good ih.1 acts⟩

def Decided (programs : τ → Program κ ν ρ ε) (base : ∀ k, ν k) (t : τ) : End ε → Prop
  | .committed => ∃ done, (programs t).alone base (fun _ => none) [] = .ok done
  | .raised e => (programs t).alone base (fun _ => none) [] = .error e
  | .killed => True

structure Stands (shape : ∀ k, ν k → σ) (programs : τ → Program κ ν ρ ε) (s : Sessions τ κ ν ρ ε) (t : τ)
    (s' mid : Sessions τ κ ν ρ ε) : Prop where
  leads : (machine programs).Leads s mid
  same : ∀ k, s.owner k = some t → mid.base k = s.base k
  alike : ∀ k, shape k (mid.base k) = shape k (s.base k)
  live : s'.ended t = none → mid = s' ∧ ∀ k, s.owner k = some t → s'.owner k = some t
  decided : ∀ how, s'.ended t = some how → Decided programs mid.base t how

theorem Acts.ended_stays {t : τ} {how : End ε} (acts : Acts s a s') (ended : s.ended t = some how) :
    s'.ended t = some how := by
  have other {u : τ} (live : s.ended u = none) : t ≠ u := by
    rintro rfl
    simp [ended] at live
  cases acts with
  | advanced => exact ended
  | committed u live | raised u _ live | killed u live => simpa [commit, stop, other live] using ended

theorem Acts.unwritten {t : τ} (acts : Acts s a s') (mine : a = .run t ∨ a = .kill t)
    (open_ : s'.ended t ≠ some .committed) : s'.base = s.base ∧ s'.table = s.table := by
  cases acts with
  | committed u =>
    obtain rfl : u = t := by simpa using mine
    simp [commit, stop] at open_
  | advanced | raised | killed => exact ⟨rfl, rfl⟩

theorem unwritten {s₀ : Sessions τ κ ν ρ ε} {moves : List (Move (Sessions τ κ ν ρ ε) (Action τ))}
    (run : (machine programs).Run s₀ moves s) {t : τ} (open_ : s.ended t ≠ some .committed) :
    ∀ move ∈ moves, move.label = .run t ∨ move.label = .kill t →
      move.after.base = move.before.base ∧ move.after.table = move.before.table := by
  induction run with
  | start _ => simp
  | step _ taken ih =>
    have acts := step_acts taken
    intro move member mine
    rcases List.mem_append.mp member with old | new
    · exact ih (fun ended => open_ (acts.ended_stays ended)) move old mine
    · obtain rfl := List.mem_singleton.mp new
      exact acts.unwritten mine open_

theorem Sound.decides {t : τ} {how : End ε} (good : (programs t).Disciplined shape) (sound : s.Sound programs)
    (acts : Acts s a s') (live : s.ended t = none) (ended : s'.ended t = some how) :
    Decided programs s.base t how := by
  have same {u : τ} {other : End ε} (stopped : (s.stop u other).ended t = some how) : u = t ∧ other = how := by
    by_cases here : t = u
    · subst here
      exact ⟨rfl, by simpa [Sessions.stop] using stopped⟩
    · simp [Sessions.stop, here, live] at stopped
  cases acts with
  | advanced => simp [advance, live] at ended
  | committed u _ at_ =>
    obtain ⟨rfl, rfl⟩ := same ended
    have outcome := (sound.reaches u live).outcome good
    rw [Local.outcome, at_] at outcome
    exact ⟨_, outcome.symm⟩
  | raised u e _ at_ =>
    obtain ⟨rfl, rfl⟩ := same ended
    have outcome := (sound.reaches u live).outcome good
    rw [Local.outcome, at_] at outcome
    exact outcome.symm
  | killed u _ =>
    obtain ⟨rfl, rfl⟩ := same ended
    trivial

theorem Sound.keeps_shape (good : ∀ t, (programs t).Disciplined shape) (sound : s.Sound programs)
    (acts : Acts s a s') (k : κ) : shape k (s'.base k) = shape k (s.base k) := by
  cases acts with
  | committed t live at_ => exact sound.commit_shape (good t) live k
  | _ => rfl

theorem Sound.stands (good : ∀ t, (programs t).Disciplined shape) (sound : s.Sound programs) {t : τ}
    (live : s.ended t = none) (leads : (machine programs).Leads s s') :
    s'.Sound programs ∧ ∃ mid, Stands shape programs s t s' mid := by
  induction leads with
  | refl =>
    refine ⟨sound, s, .refl, fun _ _ => rfl, fun _ => rfl, fun _ => ⟨rfl, fun _ => id⟩, fun how ended => ?_⟩
    rw [live] at ended
    cases ended
  | @tail before last earlier taken ih =>
    obtain ⟨sound', mid, stands⟩ := ih
    obtain ⟨a, taken⟩ := taken
    have acts := step_acts taken
    refine ⟨sound'.step good acts, ?_⟩
    cases ended : before.ended t with
    | some how =>
      have stays := acts.ended_stays ended
      refine ⟨mid, stands.leads, stands.same, stands.alike, fun live => ?_, fun how' ended' => ?_⟩
      · rw [stays] at live
        cases live
      · obtain rfl : how = how' := Option.some.inj (stays.symm.trans ended')
        exact stands.decided how ended
    | none =>
      obtain ⟨rfl, owned⟩ := stands.live ended
      cases after : last.ended t with
      | some how =>
        refine ⟨mid, stands.leads, stands.same, stands.alike, fun live => ?_, fun how' ended' => ?_⟩
        · rw [after] at live
          cases live
        · exact sound'.decides (good t) acts ended ended'
      | none =>
        have kept (k : κ) (mine : s.owner k = some t) := sound'.keeps_locked acts after (owned k mine)
        refine ⟨last, earlier.tail ⟨a, taken⟩, fun k mine => (kept k mine).2.trans (stands.same k mine),
          fun k => (sound'.keeps_shape good acts k).trans (stands.alike k),
          fun _ => ⟨rfl, fun k mine => (kept k mine).1⟩, fun how ended' => ?_⟩
        rw [after] at ended'
        cases ended'

end Sessions

end Locking
