import Storefront.Tenancy.Worker

set_option autoImplicit false

/-!
# Every job stays in its tenant

Whatever is asked of a worker, in whatever order and however it ends: a job reads
and writes rows of its own tenant only, and leaves nothing of the tenant behind
for the next one. The policy alone is enough for that, and so are the managers.
-/

namespace Storefront

open Relational Transition Text

variable {ν : Type} {app : Application ν} {role : DatabaseRole} {inside : Id → Prop} {who : Option Id} {w w' : World}
  {code : Code ν} {known : List Record}

/-- One of the two layers holds: the policy, or the managers. -/
def Code.Sealed (role : DatabaseRole) (code : Code ν) (known : List Record) : Prop := role = .app_user ∨ code.Scoped known

-- Context and connection name the same tenant, if any.
structure World.Bound (who : Option Id) (w : World) : Prop where
  context : w.current_tenant = who
  named : w.session.read.owner? = who

theorem World.Bound.ran (bound : w.Bound who) (ran : Ran inside w w') : w'.Bound who :=
  ⟨ran.current_tenant.trans bound.context, ran.session ▸ bound.named⟩

theorem World.Bound.mine (bound : w.Bound who) : Mine who [] w := ⟨bound.context, by simp, by simp⟩

theorem World.Idle.bound (idle : w.Idle) : w.Bound none := by
  refine ⟨idle.1, ?_⟩
  rw [idle.2.read]
  split <;> rfl

theorem run_sealed (layer : code.Sealed role known) (bound : w.Bound who) (mine : Mine who known w) :
    Ran (who = some ·) w (code.run role w).2 := by
  rcases layer with rfl | stays
  · exact bound.named ▸ run_guarded code w (guards_owner w)
  · exact run_scoped code known w stays mine

theorem Code.Sealed.atomic (layer : code.Sealed role known) : (Code.atomic code .done).Sealed role known := by
  rcases layer with user | stays
  · exact .inl user
  · exact .inr ⟨stays, fun _ => trivial⟩

/-- What a job does between two moments at which the process belongs to no tenant. -/
structure Passes (inside : Id → Prop) (w w' : World) : Prop extends Confined inside w w' where
  current_tenant : w'.current_tenant = w.current_tenant
  rests : w'.session.Rests

theorem Passes.refl (rests : w.session.Rests) : Passes inside w w := ⟨.refl inside w, rfl, rests⟩

theorem Passes.idle (passes : Passes inside w w') (idle : w.Idle) : w'.Idle :=
  ⟨passes.current_tenant.trans idle.1, passes.rests⟩

theorem asTenant_passes (tenant_id : Id) (rests : w.session.Rests)
    (ran : ∀ v, v.Bound (some tenant_id) → Ran inside v (code.run role v).2) :
    Passes inside w (asTenant role tenant_id code w).2 := by
  let named : World := { w with current_tenant := some tenant_id, session := w.session.set tenant_id }
  have inner := ran named ⟨rfl, by simp [named, Reading.owner?]⟩
  refine ⟨⟨inner.seen, inner.others⟩, rfl, ?_⟩
  change Session.Rests (code.run role named).2.session.reset
  rw [inner.session]
  exact rests.reset_set

namespace Application

variable {request : HttpRequest} {tenant : Option Tenant}

theorem callView_ran (user : Option Record) (layer : (app.view request tenant user).Sealed app.role user.toList)
    (bound : w.Bound who) (mine : Mine who user.toList w) :
    Ran (who = some ·) w (app.callView request tenant user w).2 :=
  run_sealed layer.atomic bound mine

theorem authenticate_ran (reach : w.Reaches app.role .objects inside)
    (calls : ∀ (user : Option Record) w', Ran inside w w' →
      (∀ r ∈ user.toList, r ∈ w'.rows.rows ∧ inside r.tenant_id) →
        Ran inside w' (app.callView request tenant user w').2) :
    Ran inside w (app.authenticate request tenant w).2 := by
  have anonymous := calls none w (.refl inside w) (by simp)
  unfold authenticate
  split
  · exact anonymous
  · split
    · exact .refl inside w
    · split
      · exact .refl inside w
      · split
        · exact .refl inside w
        next absent => exact (select_confined reach absent).1
        next user _ w' found =>
          obtain ⟨read, stored, same⟩ := select_confined reach found
          split
          · refine read.trans (calls (some user) w' read fun r member => ?_)
            obtain rfl := List.mem_singleton.mp member
            exact same ▸ stored r List.mem_cons_self
          · exact read

theorem openSession_passes (rests : w.session.Rests) (context : w.current_tenant = who)
    (ran : ∀ v, v.Bound who → Ran inside v (app.authenticate request tenant v).2) :
    Passes inside w (app.openSession request tenant w).2 := by
  unfold openSession
  split
  next outside =>
    have idle : w.Idle := ⟨outside, rests⟩
    obtain rfl : none = who := outside.symm.trans context
    have inner := ran w idle.bound
    exact ⟨inner.toConfined, inner.current_tenant, inner.session ▸ rests⟩
  next t named =>
    obtain rfl : some t = who := named.symm.trans context
    let opened : World := { w with session := w.session.enter.setLocal t }
    have inner := ran opened ⟨named, rfl⟩
    refine ⟨⟨inner.seen, inner.others⟩, inner.current_tenant, ?_⟩
    change Session.Rests (app.authenticate request tenant opened).2.session.commit
    rw [inner.session]
    exact rests.commit_setLocal

theorem serve_passes {p : Process} (idle : p.world.Idle)
    (ran : ∀ tenant v, v.Bound (app.routed p request).tenant_id → Ran inside v (app.authenticate request tenant v).2) :
    Passes inside p.world (app.serve p.tenants request p.world).2 := by
  unfold serve
  unfold routed at ran
  cases routed : TenantResolverMiddleware.call app.routing p.tenants request.path request.host with
  | exempt =>
    rw [routed] at ran
    exact openSession_passes idle.2 idle.1 (ran none)
  | tenant t =>
    rw [routed] at ran
    let entered : World := { p.world with current_tenant := some t.id }
    have passes : Passes inside entered _ := openSession_passes idle.2 rfl (ran (some t))
    exact ⟨⟨passes.seen, passes.others⟩, rfl, passes.rests⟩
  | disallowedHost => exact .refl idle.2
  | error code status => exact .refl idle.2

def Seals (app : Application ν) : Job ν → Prop
  | .request request => ∀ tenant (user : Option Record), (app.view request tenant user).Sealed app.role user.toList
  | .task _ _ run | .durable run => run.Sealed app.role []
  | .reconcileOne _ body => body.Sealed app.role []
  | .elsewhere _ _ => False

theorem work_idle {p : Process} (job : Job ν) (idle : p.world.Idle) : (app.work p job).world.Idle := by
  have ran (code : Code ν) (w : World) : Ran (fun _ => True) w (code.run app.role w).2 :=
    run_guarded code w fun _ _ _ _ => trivial
  cases job with
  | request request =>
    have passes : Passes (fun _ => True) p.world (app.serve p.tenants request p.world).2 := by
      refine serve_passes idle fun tenant v _ => authenticate_ran (fun _ _ _ _ _ _ _ => trivial) fun user w' _ _ => ?_
      exact ran (.atomic (app.view request tenant user) .done) w'
    exact passes.idle idle
  | task name args run =>
    cases args with
    | none => exact idle
    | some tenant_id => exact (asTenant_passes tenant_id idle.2 fun v _ => ran run v).idle idle
  | durable run =>
    obtain ⟨context, session⟩ := run_frame app.role run p.world
    exact ⟨context.trans idle.1, session ▸ idle.2⟩
  | reconcileOne tenant_id body =>
    exact (asTenant_passes tenant_id idle.2 fun v _ => ran (.atomic body .done) v).idle idle
  | elsewhere tenants rows => exact idle

theorem work_confined {p : Process} {job : Job ν} (layer : app.Seals job) (idle : p.world.Idle) :
    Confined (app.tenantOf p job = some ·) p.world (app.work p job).world := by
  cases job with
  | request request =>
    refine (serve_passes idle fun tenant v bound => ?_).toConfined
    refine authenticate_ran (reaches_own bound.context) fun user w' read found => ?_
    exact callView_ran user (layer tenant user) (bound.ran read) ((bound.mine.ran read).learn found)
  | task name args run =>
    cases args with
    | none => exact .refl _ _
    | some tenant_id =>
      exact (asTenant_passes tenant_id idle.2 fun v bound => run_sealed layer bound bound.mine).toConfined
  | durable run => exact (run_sealed layer idle.bound idle.bound.mine).toConfined
  | reconcileOne tenant_id body =>
    exact (asTenant_passes tenant_id idle.2 fun v bound => run_sealed layer.atomic bound bound.mine).toConfined
  | elsewhere tenants rows => exact layer.elim

theorem idle_before {p₀ p : Process} {moves : List (Move Process (Job ν))} (run : app.worker.Run p₀ moves p) :
    ∀ move ∈ moves, move.before.world.Idle ∧ app.work move.before move.label = move.after := by
  intro move member
  obtain ⟨taken, _, earlier, _⟩ := run.before_move move member
  refine ⟨earlier.invariant (fun _ idle => idle) (fun q job q' idle done => ?_), Option.some.inj taken⟩
  cases done
  exact work_idle job idle

end Application

open Application

/-- In every run of a worker, after every job the process belongs to no tenant again, and a job on which either layer
holds has read rows of its own tenant only and has written no row of another. -/
theorem jobs_stay_in_tenant {p₀ p : Process} {moves : List (Move Process (Job ν))} (run : app.worker.Run p₀ moves p) :
    ∀ move ∈ moves, move.after.world.Idle ∧ (app.Seals move.label →
      Confined (app.tenantOf move.before move.label = some ·) move.before.world move.after.world) := by
  intro move member
  obtain ⟨idle, done⟩ := idle_before run move member
  rw [← done]
  exact ⟨work_idle move.label idle, fun layer => work_confined layer idle⟩

namespace Sample

def cartOfMyShop : Cart := { cart with id := 42, tenant := 2, customer := 12 }

def twoCarts : Table Record where
  rows := [.cart cart, .cart cartOfMyShop]
  unique := by decide
  checked := by simp [Schema.check, Record.check]

-- Asks for every row there is.
def lookAround : Code Unit := .select .all_objects (fun _ => true) fun _ => .done ()

def bazaar : Application Unit where
  routing := webRouting
  role := .app_user
  TESTING_DISABLE_AUTH := false
  uuid _ := none
  view _ _ _ := lookAround

def orders : HttpRequest := { path := "/api/v1/admin/orders", host := "store-a.acme.test", HTTP_X_CUSTOMER_ID := "" }

def opened : Process where
  tenants := directory.tenants
  world := { current_tenant := none, session := ⟨none, [], false⟩, rows := twoCarts, seen := [] }

def served : Process := bazaar.work opened (.request orders)
def invoiceJob : Job Unit := .task "apps.orders.tasks.generate_invoice" (some 2) lookAround
def tasked : Process := bazaar.work served invoiceJob

theorem bazaar_runs : bazaar.worker.Run opened
    [⟨opened, .request orders, served⟩, ⟨served, invoiceJob, tasked⟩] tasked := by
  have started : bazaar.worker.Run opened [] opened := .start ⟨rfl, rfl, rfl⟩
  exact (started.step rfl).step rfl

end Sample

theorem jobs_stay_in_tenant_bazaar :
    Confined (some 1 = some ·) Sample.opened.world Sample.served.world ∧
      Confined (some 2 = some ·) Sample.served.world Sample.tasked.world ∧ Sample.tasked.world.Idle ∧
        Sample.served.world.seen.map Record.id = [40] ∧ Sample.tasked.world.seen.map Record.id = [40, 42] := by
  have stays := jobs_stay_in_tenant Sample.bazaar_runs
  have first := stays ⟨Sample.opened, .request Sample.orders, Sample.served⟩ (by simp)
  have second := stays ⟨Sample.served, Sample.invoiceJob, Sample.tasked⟩ (by simp)
  have routed : Sample.bazaar.tenantOf Sample.opened (.request Sample.orders) = some 1 := by decide +kernel
  refine ⟨?_, second.2 (.inl rfl), second.1, by decide +kernel, by decide +kernel⟩
  rw [← routed]
  exact first.2 fun _ _ => .inl rfl

end Storefront
