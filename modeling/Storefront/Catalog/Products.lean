import Storefront.Models.Database

set_option autoImplicit false

namespace Storefront

open Relational Transition

-- RegexValidator(r"^[A-Z]{3}$") on a field of at most three characters.
def isCurrencyCode (text : String) : Bool :=
  text.toList.length == 3 && text.toList.all fun c => 'A' ≤ c && c ≤ 'Z'

def currencyMessage : String :=
  "Currency must be a three-letter uppercase ISO 4217 code (e.g. SAR, USD)."

-- validated_data of AdminProductCreateSerializer
structure ProductCreate where
  sku : String
  name : String
  description : String := ""
  price : ℚ
  currency : String
  stock_quantity : Int := 0
  is_active : Bool := true

-- validated_data of AdminProductUpdateSerializer; every field is optional.
structure ProductUpdate where
  name : Option String := none
  description : Option String := none
  price : Option ℚ := none
  currency : Option String := none
  stock_quantity : Option Int := none
  is_active : Option Bool := none

def ProductUpdate.apply (data : ProductUpdate) (p : Product) : Product :=
  { p with
    name := data.name.getD p.name
    description := data.description.getD p.description
    price := data.price.getD p.price
    currency := data.currency.getD p.currency
    stock_quantity := data.stock_quantity.getD p.stock_quantity
    is_active := data.is_active.getD p.is_active }

-- AdminProductListCreateView.post
def createProduct (tenant id : Id) (data : ProductCreate) (db : Db) : Outcome Db := do
  require (isCurrencyCode data.currency = true) (.validationError "currency" currencyMessage)
  require (∀ p ∈ db.products.rows, ¬ (p.tenant = tenant ∧ p.sku = data.sku))
    (.validationError "sku" s!"SKU '{data.sku}' already exists on this tenant.")
  db.insertProduct
    { id
      tenant
      sku := data.sku
      name := data.name
      description := data.description
      price := data.price
      currency := data.currency
      stock_quantity := data.stock_quantity
      reserved_quantity := 0
      is_active := data.is_active }

def productInUse (db : Db) (tenant product : Id) : Bool :=
  db.cartItems.rows.any fun i => i.tenant == tenant && i.product == product &&
    db.carts.rows.any fun c => c.id == i.cart && (c.status == .active || c.status == .checkingOut)

-- AdminProductDetailView.patch
def patchProduct (tenant product : Id) (data : ProductUpdate) (db : Db) : Outcome Db := do
  let p ← orRaise (.resourceNotFound "Product not found")
    (db.products.rows.find? fun p => p.tenant == tenant && p.id == product)
  require (∀ code ∈ data.currency, isCurrencyCode code = true)
    (.validationError "currency" currencyMessage)
  require (∀ new_stock ∈ data.stock_quantity, p.reserved_quantity ≤ new_stock)
    (.validationError "stock_quantity"
      s!"Cannot set stock_quantity ({data.stock_quantity.getD 0}) below the currently reserved quantity ({p.reserved_quantity}).")
  require (∀ new_currency ∈ data.currency,
      new_currency ≠ p.currency → productInUse db tenant product = false)
    (.validationError "currency"
      "Cannot change currency while the product is in any active or in-flight cart.")
  db.updateProducts (fun row => row.tenant == tenant && row.id == product) data.apply

-- AdminProductDetailView.delete
def deactivateProduct (tenant product : Id) (db : Db) : Outcome Db := do
  let _ ← orRaise (.resourceNotFound "Product not found")
    (db.products.rows.find? fun p => p.tenant == tenant && p.id == product)
  db.updateProducts (fun row => row.tenant == tenant && row.id == product) fun p =>
    { p with is_active := false }

/-! ## Accepted requests -/

section Accepted

variable {tenant : Id} {db db' : Db}

theorem updateProducts_frame {p : Product → Bool} {f : Product → Product} (done : db.updateProducts p f = .ok db') :
    db' = { db with products := db'.products } := by
  obtain ⟨_, _, rfl⟩ := stored_eq_ok.mp done
  rfl

theorem createProduct_frame {id : Id} {data : ProductCreate} (done : createProduct tenant id data db = .ok db') :
    db' = { db with products := db'.products } := by
  simp only [createProduct, bind_eq_ok, Db.insertProduct, stored_eq_ok] at done
  obtain ⟨_, _, _, _, _, _, rfl⟩ := done
  rfl

theorem patchProduct_updates {product : Id} {data : ProductUpdate} (done : patchProduct tenant product data db = .ok db') :
    db.updateProducts (fun row => row.tenant == tenant && row.id == product) data.apply = .ok db' := by
  simp only [patchProduct, bind_eq_ok] at done
  obtain ⟨_, _, _, _, _, _, _, _, updated⟩ := done
  exact updated

theorem deactivateProduct_updates {product : Id} (done : deactivateProduct tenant product db = .ok db') :
    db.updateProducts (fun row => row.tenant == tenant && row.id == product) (fun p => { p with is_active := false }) =
      .ok db' := by
  simp only [deactivateProduct, bind_eq_ok] at done
  obtain ⟨_, _, updated⟩ := done
  exact updated

theorem patchProduct_frame {product : Id} {data : ProductUpdate} (done : patchProduct tenant product data db = .ok db') :
    db' = { db with products := db'.products } :=
  updateProducts_frame (patchProduct_updates done)

theorem deactivateProduct_frame {product : Id} (done : deactivateProduct tenant product db = .ok db') :
    db' = { db with products := db'.products } :=
  updateProducts_frame (deactivateProduct_updates done)

end Accepted

end Storefront
