import Storefront.Orders.Snapshot
import Storefront.System.CartContents
import Storefront.System.Lines

set_option autoImplicit false

/-!
# The version of a cart identifies its contents

Optimistic locking: a client that names the version it saw gets the cart it saw.
-/

namespace Storefront

open Relational Transition

/-- What a client sees in a cart beside its version. -/
structure Contents where
  items : List CartItem
  applied : List AppliedCoupon
  shipping_address : Option Id
  billing_address : Option Id
  selected_payment_method : Option Id

def CartRows.contents (b : CartRows) : Contents :=
  ⟨b.items, b.applied, b.row.shipping_address, b.row.billing_address, b.row.selected_payment_method⟩

def Db.contents (db : Db) (c : Cart) : Contents := (db.cartRows c).contents

section Versions

variable {settings : Settings} {lib : WebhookLibrary} {s s' : Sys}

structure Later (db : Db) (c : Cart) (db' : Db) (c' : Cart) : Prop where
  named : c'.id = c.id
  version : c.version ≤ c'.version
  live : c'.status.live = true → c.status.live = true
  same : c'.status.live = true → c'.version = c.version → db'.contents c' = db.contents c

theorem Later.trans {db mid db' : Db} {a b c : Cart} (first : Later db a mid b) (second : Later mid b db' c) :
    Later db a db' c where
  named := second.named.trans first.named
  version := first.version.trans second.version
  live live := first.live (second.live live)
  same live version := by
    have squeezed : c.version = b.version := by
      have := first.version
      have := second.version
      omega
    exact (second.same live squeezed).trans (first.same (second.live live) (squeezed.symm.trans version))

theorem CartStatus.Goes.live {a b : CartStatus} (goes : a.Goes b) (live : b.live = true) : a.live = true := by
  rcases goes with rfl | rfl | before
  · exact live
  · cases live
  · exact before

-- Deleting an address or a payment method clears a slot behind the version's back.
def Event.keepsSlots (e : Event) : Bool := !e.clearsSlots

end Versions

namespace Sample

-- The customer fills the cart, looks at it and orders it.
def ordering : List Event := filling ++ [shopper .getCart] ++ calling placing

end Sample

end Storefront
