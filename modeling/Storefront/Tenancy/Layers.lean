import Storefront.Tenancy.Programs

set_option autoImplicit false

/-!
# Two layers of isolation

The policy on the default connection confines any code to the tenant of the
session. The managers confine code that stays with them to the tenant of the
context, on whatever connection.
-/

namespace Storefront

open Relational Transition

variable {ν : Type} {role : DatabaseRole} {inside : Id → Prop} {w w' : World} {manager : Manager} {p : Record → Bool}
  {f : Record → Record}

/-- Since `w` only rows of tenants inside were read, and no row of a tenant outside was written. -/
structure Confined (inside : Id → Prop) (w w' : World) : Prop where
  seen : ∃ rows, w'.seen = w.seen ++ rows ∧ ∀ r ∈ rows, inside r.tenant_id
  others : ∀ t, ¬ inside t → w'.rows.part (·.tenant_id == t) = w.rows.part (·.tenant_id == t)

theorem Confined.refl (inside : Id → Prop) (w : World) : Confined inside w w :=
  ⟨⟨[], by simp, by simp⟩, fun _ _ => rfl⟩

theorem Confined.trans {w₁ w₂ w₃ : World} (first : Confined inside w₁ w₂) (second : Confined inside w₂ w₃) :
    Confined inside w₁ w₃ := by
  obtain ⟨rows, read, mine⟩ := first.seen
  obtain ⟨more, readMore, mineToo⟩ := second.seen
  refine ⟨⟨rows ++ more, by rw [readMore, read, List.append_assoc], fun r member => ?_⟩, fun t other =>
    (second.others t other).trans (first.others t other)⟩
  rcases List.mem_append.mp member with old | new
  · exact mine r old
  · exact mineToo r new

structure Ran (inside : Id → Prop) (w w' : World) : Prop extends Confined inside w w' where
  current_tenant : w'.current_tenant = w.current_tenant
  session : w'.session = w.session

theorem Ran.refl (inside : Id → Prop) (w : World) : Ran inside w w := ⟨.refl inside w, rfl, rfl⟩

theorem Ran.trans {w₁ w₂ w₃ : World} (first : Ran inside w₁ w₂) (second : Ran inside w₂ w₃) : Ran inside w₁ w₃ :=
  ⟨first.toConfined.trans second.toConfined, second.current_tenant.trans first.current_tenant,
    second.session.trans first.session⟩

theorem Ran.commit (body : Ran inside w.enter w') : Ran inside w w'.commit := by
  refine ⟨⟨body.seen, body.others⟩, body.current_tenant, ?_⟩
  rw [World.commit, body.session, World.enter, Session.commit_enter]

theorem Ran.rollback (body : Ran inside w.enter w') : Ran inside w (w'.rollback w.rows) := by
  refine ⟨⟨body.seen, fun _ _ => rfl⟩, body.current_tenant, ?_⟩
  rw [World.rollback, body.session, World.enter, Session.rollback_enter]

theorem Ran.restored {t : Option Id} (body : Ran inside { w with current_tenant := t } w') :
    Ran inside w { w' with current_tenant := w.current_tenant } :=
  ⟨⟨body.seen, body.others⟩, rfl, body.session⟩

/-! ## What a statement does -/

theorem World.put_eq_ok {rows : Option (Table Record)} :
    w.put rows = .ok w' ↔ ∃ t, rows = some t ∧ w' = { w with rows := t } := by
  cases rows <;> simp [World.put, orRaise, Except.map, eq_comm]

def World.Reaches (w : World) (role : DatabaseRole) (manager : Manager) (inside : Id → Prop) : Prop :=
  ∀ scope visible, manager.scope w.current_tenant = some scope → w.visible role = .ok visible →
    ∀ r, scope r = true → visible r = true → inside r.tenant_id

def World.Admits (w : World) (role : DatabaseRole) (row : Record) (inside : Id → Prop) : Prop :=
  ∀ visible, w.visible role = .ok visible → visible row = true → inside row.tenant_id

theorem apart {r : Record} {t : Id} (own : inside r.tenant_id) (other : ¬ inside t) : (r.tenant_id == t) = false := by
  rw [beq_eq_false_iff_ne]
  rintro rfl
  exact other own

theorem select_confined {found : List Record} (reach : w.Reaches role manager inside)
    (done : w.select role manager p = .ok (found, w')) :
    Ran inside w w' ∧ (∀ r ∈ found, r ∈ w.rows.rows ∧ inside r.tenant_id) ∧ w'.rows = w.rows := by
  unfold World.select at done
  split at done
  · cases done
    exact ⟨.refl inside w, by simp, rfl⟩
  next scope opened =>
    obtain ⟨visible, shown, rest⟩ := bind_eq_ok.mp done
    cases rest
    have mine (r : Record) (member : r ∈ w.rows.selectBy visible fun r => scope r && p r) :
        r ∈ w.rows.rows ∧ inside r.tenant_id := by
      obtain ⟨present, seen, picked⟩ := Table.mem_selectBy.mp member
      exact ⟨present, reach scope visible opened shown r (Bool.and_eq_true_iff.mp picked).1 seen⟩
    exact ⟨⟨⟨⟨_, rfl, fun r member => (mine r member).2⟩, fun _ _ => rfl⟩, rfl, rfl⟩, mine, rfl⟩

theorem update_confined {n : Nat} (reach : w.Reaches role manager inside)
    (kept : ∀ r, inside r.tenant_id → w.Admits role (f r) inside) (done : w.update role manager p f = .ok (n, w')) :
    Ran inside w w' := by
  unfold World.update at done
  split at done
  · cases done
    exact .refl inside w
  next scope opened =>
    simp only [bind_eq_ok, require_eq_ok, World.put_eq_ok] at done
    obtain ⟨visible, shown, _, closed, _, ⟨rows, written, rfl⟩, rest⟩ := done
    cases rest
    refine ⟨⟨⟨[], by simp, by simp⟩, fun t other => ?_⟩, rfl, rfl⟩
    refine Table.part_updateBy written closed fun r _ seen picked stays => ?_
    have own := reach scope visible opened shown r (Bool.and_eq_true_iff.mp picked).1 seen
    exact ⟨apart own other, apart (kept r own visible shown stays) other⟩

theorem delete_confined {n : Nat} (reach : w.Reaches role manager inside)
    (done : w.delete role manager p = .ok (n, w')) : Ran inside w w' := by
  unfold World.delete at done
  split at done
  · cases done
    exact .refl inside w
  next scope opened =>
    obtain ⟨visible, shown, rest⟩ := bind_eq_ok.mp done
    cases rest
    refine ⟨⟨⟨[], by simp, by simp⟩, fun t other => Table.part_deleteBy fun r _ seen picked => ?_⟩, rfl, rfl⟩
    exact apart (reach scope visible opened shown r (Bool.and_eq_true_iff.mp picked).1 seen) other

theorem insert_confined {row : Record} (own : w.Admits role row inside) (done : w.insert role row = .ok w') :
    Ran inside w w' := by
  simp only [World.insert, bind_eq_ok, require_eq_ok, World.put_eq_ok] at done
  obtain ⟨visible, shown, _, admitted, rows, inserted, rfl⟩ := done
  refine ⟨⟨⟨[], by simp, by simp⟩, fun t other => ?_⟩, rfl, rfl⟩
  exact Table.part_insert_out inserted (apart (own visible shown admitted) other)

theorem create_confined {draft : Unsaved} {row : Record}
    (own : ∀ row, w.filled draft = .ok row → w.Admits role row inside) (done : w.create role draft = .ok (row, w')) :
    Ran inside w w' ∧ w.filled draft = .ok row ∧ row ∈ w'.rows.rows := by
  simp only [World.create, bind_eq_ok] at done
  obtain ⟨row, filled, _, inserted, rest⟩ := done
  cases rest
  refine ⟨insert_confined (own row filled) inserted, filled, ?_⟩
  simp only [World.insert, bind_eq_ok, World.put_eq_ok] at inserted
  obtain ⟨_, _, _, _, rows, added, rfl⟩ := inserted
  simp [Table.insert_rows added]

theorem save_confined {draft : Unsaved} {row : Record}
    (own : ∀ row, w.filled draft = .ok row → w.Admits role row inside)
    (stored : ∀ row, w.filled draft = .ok row → ∀ visible, w.visible role = .ok visible →
      ∀ r ∈ w.rows.rows, visible r = true → row.same r = true → inside r.tenant_id)
    (done : w.save role draft = .ok (row, w')) : Ran inside w w' := by
  simp only [World.save, bind_eq_ok] at done
  obtain ⟨row, filled, visible, shown, rest⟩ := done
  split at rest
  · obtain ⟨_, inserted, rest⟩ := bind_eq_ok.mp rest
    cases rest
    exact insert_confined (own row filled) inserted
  · simp only [bind_eq_ok, require_eq_ok, World.put_eq_ok] at rest
    obtain ⟨_, closed, _, ⟨rows, written, rfl⟩, rest⟩ := rest
    cases rest
    refine ⟨⟨⟨[], by simp, by simp⟩, fun t other => ?_⟩, rfl, rfl⟩
    refine Table.part_updateBy written closed fun r member seen picked stays => ?_
    exact ⟨apart (stored row filled visible shown r member seen picked) other,
      apart (own row filled visible shown stays) other⟩

/-! ## Programs -/

theorem Ran.after {α : Type} {x : Outcome (α × World)} {next : α → World → Except Exn ν × World}
    (taken : ∀ a w', x = .ok (a, w') → Ran inside w w')
    (rest : ∀ a w', x = .ok (a, w') → Ran inside w w' → Ran inside w' (next a w').2) :
    Ran inside w (Code.after w next x).2 := by
  cases x with
  | ok made =>
    obtain ⟨a, w'⟩ := made
    have here := taken a w' rfl
    exact here.trans (rest a w' rfl here)
  | error e => exact .refl inside w

def World.Guards (w : World) (role : DatabaseRole) (inside : Id → Prop) : Prop :=
  ∀ visible, w.visible role = .ok visible → ∀ r, visible r = true → inside r.tenant_id

theorem World.Guards.ran (guards : w.Guards role inside) (ran : Ran inside w w') : w'.Guards role inside := by
  have same : w'.visible role = w.visible role := by simp only [World.visible, ran.session]
  exact fun visible shown => guards visible (same ▸ shown)

theorem run_guarded (code : Code ν) : ∀ w, w.Guards role inside → Ran inside w (code.run role w).2 := by
  have reach (manager : Manager) {w : World} (guards : w.Guards role inside) : w.Reaches role manager inside :=
    fun _ visible _ shown r _ seen => guards visible shown r seen
  have admits (row : Record) {w : World} (guards : w.Guards role inside) : w.Admits role row inside :=
    fun visible shown seen => guards visible shown row seen
  induction code with
  | done v => exact fun w _ => .refl inside w
  | raise e => exact fun w _ => .refl inside w
  | select manager p next ih =>
    exact fun w guards => .after (fun _ _ done => (select_confined (reach manager guards) done).1)
      fun rows w' _ ran => ih rows w' (guards.ran ran)
  | update manager p f next ih =>
    have keeps {w : World} (guards : w.Guards role inside) (r : Record) (_ : inside r.tenant_id) :
        w.Admits role (f r) inside := admits (f r) guards
    exact fun w guards => .after (fun _ _ done => update_confined (reach manager guards) (keeps guards) done)
      fun n w' _ ran => ih n w' (guards.ran ran)
  | delete manager p next ih =>
    exact fun w guards => .after (fun _ _ done => delete_confined (reach manager guards) done)
      fun n w' _ ran => ih n w' (guards.ran ran)
  | create draft next ih =>
    exact fun w guards => .after (fun _ _ done => (create_confined (fun row _ => admits row guards) done).1)
      fun row w' _ ran => ih row w' (guards.ran ran)
  | save draft next ih =>
    refine fun w guards => .after (fun _ _ done => save_confined (fun row _ => admits row guards) ?_ done)
      fun row w' _ ran => ih row w' (guards.ran ran)
    exact fun _ _ visible shown r _ seen _ => guards visible shown r seen
  | atomic body next ihBody ihNext =>
    intro w guards
    have block := ihBody w.enter guards
    unfold Code.run
    generalize body.run role w.enter = out at block ⊢
    obtain ⟨e | v, w'⟩ := out
    · exact block.rollback
    · exact block.commit.trans (ihNext v w'.commit (guards.ran block.commit))
  | attempt body next ihBody ihNext =>
    exact fun w guards => (ihBody w guards).trans (ihNext _ _ (guards.ran (ihBody w guards)))
  | within tenant_id body next ihBody ihNext =>
    intro w guards
    have block := ihBody { w with current_tenant := tenant_id } guards
    unfold Code.run
    generalize body.run role { w with current_tenant := tenant_id } = out at block ⊢
    obtain ⟨e | v, w'⟩ := out
    · exact block.restored
    · exact block.restored.trans (ihNext v _ (guards.ran block.restored))

/-- No code leaves another context or setting behind, whatever it reads and writes. -/
theorem run_frame (role : DatabaseRole) (code : Code ν) (w : World) :
    (code.run role w).2.current_tenant = w.current_tenant ∧ (code.run role w).2.session = w.session := by
  have ran : Ran (fun _ => True) w (code.run role w).2 := run_guarded code w fun _ _ _ _ => trivial
  exact ⟨ran.current_tenant, ran.session⟩

/-! ## Any code on the connection of app_user -/

theorem guards_owner (w : World) : w.Guards .app_user fun t => w.session.read.owner? = some t := by
  intro visible shown r seen
  obtain ⟨shows, given, rfl⟩ := map_eq_ok.mp shown
  have listed := r.db_table_secured
  simp only [listed, not_true_eq_false, decide_false, Bool.false_or] at seen
  exact Reading.policy_shows (orRaise_eq_ok.mp given) seen

/-! ## Code that stays with the managers -/

-- The instance of a stored row, with the columns it is saved with.
structure Unsaved.Of (draft : Unsaved) (r : Record) : Prop where
  tenant : draft.tenant_id = some r.tenant_id
  same : ∀ t, (draft.fill t).same r = true

/-- Queries go through `objects`, updates keep the tenant, new instances leave it to `save`, and instances are saved
that the code has read or created. -/
def Code.Scoped : Code ν → List Record → Prop
  | .done _, _ => True
  | .raise _, _ => True
  | .select manager _ next, known => manager = .objects ∧ ∀ rows, (next rows).Scoped (known ++ rows)
  | .update manager _ f next, known =>
    manager = .objects ∧ (∀ r, (f r).tenant_id = r.tenant_id) ∧ ∀ n, (next n).Scoped known
  | .delete manager _ next, known => manager = .objects ∧ ∀ n, (next n).Scoped known
  | .create draft next, known => draft.tenant_id = none ∧ ∀ row, (next row).Scoped (known ++ [row])
  | .save draft next, known => (∃ r ∈ known, draft.Of r) ∧ ∀ row, (next row).Scoped known
  | .atomic body next, known => body.Scoped known ∧ ∀ v, (next v).Scoped known
  | .attempt body next, known => body.Scoped known ∧ ∀ result, (next result).Scoped known
  | .within _ _ _, _ => False

/-- The rows code knows are its tenant's, and so is whatever is stored under their keys. -/
structure Mine (who : Option Id) (known : List Record) (w : World) : Prop where
  context : w.current_tenant = who
  owned : ∀ k ∈ known, who = some k.tenant_id
  stored : ∀ k ∈ known, ∀ r ∈ w.rows.rows, r.same k = true → who = some r.tenant_id

variable {who : Option Id} {known : List Record}

theorem Mine.ran (mine : Mine who known w) (ran : Ran (who = some ·) w w') : Mine who known w' := by
  refine ⟨ran.current_tenant.trans mine.context, mine.owned, fun k member r present same => ?_⟩
  by_contra other
  have kept := congrArg Table.rows (ran.others r.tenant_id other)
  have old : r ∈ w.rows.rows.filter (·.tenant_id == r.tenant_id) := by
    rw [← Table.part_rows, ← kept]
    simpa using present
  exact other (mine.stored k member r (List.mem_of_mem_filter old) same)

theorem Mine.learn {rows : List Record} (mine : Mine who known w)
    (found : ∀ r ∈ rows, r ∈ w.rows.rows ∧ who = some r.tenant_id) : Mine who (known ++ rows) w := by
  refine ⟨mine.context, fun k member => ?_, fun k member r present same => ?_⟩
  · rcases List.mem_append.mp member with old | new
    · exact mine.owned k old
    · exact (found k new).2
  · rcases List.mem_append.mp member with old | new
    · exact mine.stored k old r present same
    · rw [Record.eq_of_same present (found k new).1 same]
      exact (found k new).2

theorem World.filled_owner {draft : Unsaved} {row : Record} (filled : w.filled draft = .ok row) :
    draft.tenant_id.or w.current_tenant = some row.tenant_id ∧ row = draft.fill row.tenant_id := by
  obtain ⟨t, named, rfl⟩ := map_eq_ok.mp filled
  rw [orRaise_eq_ok] at named
  rw [draft.filled]
  exact ⟨named, rfl⟩

theorem reaches_own (context : w.current_tenant = who) : w.Reaches role .objects (who = some ·) := by
  intro scope visible opened _ r picked _
  obtain ⟨t, here, rfl⟩ := Option.map_eq_some_iff.mp opened
  rw [← context, here, beq_iff_eq.mp picked]

theorem run_scoped (code : Code ν) :
    ∀ known w, code.Scoped known → Mine who known w → Ran (who = some ·) w (code.run role w).2 := by
  induction code with
  | done v => exact fun _ w _ _ => .refl _ w
  | raise e => exact fun _ w _ _ => .refl _ w
  | select manager p next ih =>
    rintro known w ⟨rfl, stays⟩ mine
    refine .after (fun _ _ done => (select_confined (reaches_own mine.context) done).1) fun rows w' done ran => ?_
    obtain ⟨_, found, same⟩ := select_confined (reaches_own mine.context) done
    exact ih rows _ w' (stays rows) ((mine.ran ran).learn (same ▸ found))
  | update manager p f next ih =>
    rintro known w ⟨rfl, kept, stays⟩ mine
    have keeps (r : Record) (own : who = some r.tenant_id) : w.Admits role (f r) (who = some ·) :=
      fun _ _ _ => by rw [kept r, own]
    exact .after (fun _ _ done => update_confined (reaches_own mine.context) keeps done)
      fun n w' _ ran => ih n known w' (stays n) (mine.ran ran)
  | delete manager p next ih =>
    rintro known w ⟨rfl, stays⟩ mine
    exact .after (fun _ _ done => delete_confined (reaches_own mine.context) done)
      fun n w' _ ran => ih n known w' (stays n) (mine.ran ran)
  | create draft next ih =>
    rintro known w ⟨untold, stays⟩ mine
    have own (row : Record) (filled : w.filled draft = .ok row) : who = some row.tenant_id := by
      have named := (World.filled_owner filled).1
      rwa [untold, Option.none_or, mine.context] at named
    have admits (row : Record) (filled : w.filled draft = .ok row) : w.Admits role row (who = some ·) :=
      fun _ _ _ => own row filled
    refine .after (fun _ _ done => (create_confined admits done).1) fun row w' done ran => ?_
    obtain ⟨_, filled, stored⟩ := create_confined admits done
    refine ih row _ w' (stays row) ((mine.ran ran).learn fun r member => ?_)
    obtain rfl := List.mem_singleton.mp member
    exact ⟨stored, own r filled⟩
  | save draft next ih =>
    rintro known w ⟨⟨k, member, made⟩, stays⟩ mine
    have read (row : Record) (filled : w.filled draft = .ok row) : who = some row.tenant_id ∧ row.same k = true := by
      obtain ⟨named, whole⟩ := World.filled_owner filled
      rw [made.tenant, Option.some_or] at named
      exact ⟨(mine.owned k member).trans named, whole ▸ made.same _⟩
    refine .after (fun _ _ done => ?_) fun row w' _ ran => ih row known w' (stays row) (mine.ran ran)
    refine save_confined (fun row filled _ _ _ => (read row filled).1) (fun row filled _ _ r present _ same => ?_) done
    obtain ⟨table, key⟩ := Record.same_iff.mp same
    obtain ⟨table', key'⟩ := Record.same_iff.mp (read row filled).2
    exact mine.stored k member r present (Record.same_iff.mpr ⟨table.symm.trans table', key.symm.trans key'⟩)
  | atomic body next ihBody ihNext =>
    rintro known w ⟨inner, stays⟩ mine
    have inside := ihBody known w.enter inner ⟨mine.context, mine.owned, mine.stored⟩
    unfold Code.run
    generalize body.run role w.enter = out at inside ⊢
    obtain ⟨e | v, w'⟩ := out
    · exact inside.rollback
    · exact inside.commit.trans (ihNext v known w'.commit (stays v) (mine.ran inside.commit))
  | attempt body next ihBody ihNext =>
    rintro known w ⟨inner, stays⟩ mine
    have inside := ihBody known w inner mine
    exact inside.trans (ihNext _ known _ (stays _) (mine.ran inside))
  | within tenant_id body next _ _ => exact fun _ _ stays => stays.elim

end Storefront
