import SetuoraLite.Commands.Inbox
import SetuoraLite.Lib.Machine

/-!
# The product catalogue

The product forms, `create_product` and `update_product_pricing`, and the catalogue
as a machine: the four writers of products are the two forms and the commands of
Master that name products. A form's numbers are whatever `float()` made of the
text; `inf` and `nan` are floats.
-/

namespace SetuoraLite

open Lib

/-! ## The forms -/

/-- The fields of `create_product`. -/
structure ProductForm where
  productCode : PyStr
  productName : PyStr
  nickname : PyStr
  category : PyStr
  brand : PyStr
  hsn : PyStr
  gstRate : PyFloat
  unit : PyStr
  defaultRate : PyFloat
  salesDiscountRate : PyFloat
  shelfVerificationInterval : Int
  tallyStockItemName : PyStr
  alternateTallyStockItemName : PyStr

/-- `a or b` of texts. -/
def textOr (a b : PyStr) : PyStr := if a = [] then b else a

/-- The row of a product form. -/
def ProductForm.row (f : ProductForm) (id : Nat) : Product :=
  { id := id, productCode := normalizeSerial f.productCode, productName := strip f.productName,
    nickname := textOrNone (strip f.nickname), category := textOrNone (strip f.category),
    brand := textOrNone (strip f.brand), hsn := strip f.hsn, gstRate := f.gstRate,
    unit := textOr (strip f.unit) (py "Pcs"), defaultRate := f.defaultRate,
    salesDiscountRate := f.salesDiscountRate,
    shelfVerificationInterval := f.shelfVerificationInterval,
    tallyStockItemName := textOr (strip f.tallyStockItemName) (strip f.productName),
    alternateTallyStockItemName := textOrNone (strip f.alternateTallyStockItemName),
    active := true }

/-- A number below zero or above a hundred; a `nan` is neither. -/
def outsideHundred (f : PyFloat) : Bool := PyFloat.lt f .zero || PyFloat.lt hundred f

/-- `create_product`. -/
def createProduct (f : ProductForm) : Tx PUnit := do
  Tx.raiseIf (outsideHundred f.salesDiscountRate = true)
    ⟨.value, py "Sales discount must be between 0 and 100%"⟩
  Tx.raiseIf (f.shelfVerificationInterval < 1 ∨ 1000 < f.shelfVerificationInterval)
    ⟨.value, py "Shelf verification interval must be between 1 and 1000 scans"⟩
  let _ ← insertProduct f.row
  pure ⟨⟩

/-- The fields of `update_product_pricing`; `none` is a field that is not sent. -/
structure PricingForm where
  defaultRate : PyFloat
  salesDiscountRate : PyFloat
  shelfVerificationInterval : Option Int
  nickname : Option PyStr
  category : Option PyStr
  brand : Option PyStr
  hsn : Option PyStr
  gstRate : Option PyFloat
  tallyStockItemName : Option PyStr
  alternateTallyStockItemName : Option PyStr

/-- The product under a pricing form. -/
def PricingForm.over (f : PricingForm) (p : Product) : Product :=
  { p with
    defaultRate := f.defaultRate
    salesDiscountRate := f.salesDiscountRate
    shelfVerificationInterval := f.shelfVerificationInterval.getD
      (if p.shelfVerificationInterval < 1 then 1 else p.shelfVerificationInterval)
    nickname := (f.nickname.map fun s => textOrNone (strip s)).getD p.nickname
    category := (f.category.map fun s => textOrNone (strip s)).getD p.category
    brand := (f.brand.map fun s => textOrNone (strip s)).getD p.brand
    hsn := (f.hsn.map strip).getD p.hsn
    gstRate := f.gstRate.getD p.gstRate
    tallyStockItemName :=
      (f.tallyStockItemName.map fun s => textOr (strip s) p.productName).getD p.tallyStockItemName
    alternateTallyStockItemName :=
      (f.alternateTallyStockItemName.map fun s => textOrNone (strip s)).getD
        p.alternateTallyStockItemName }

/-- The first error of a pricing form. -/
def pricingError (f : PricingForm) : Option PyStr :=
  if PyFloat.lt f.defaultRate .zero = true then some (py "Default rate cannot be negative")
  else if outsideHundred f.salesDiscountRate = true then
    some (py "Sales discount must be between 0 and 100%")
  else if f.shelfVerificationInterval.any (fun n => decide (n < 1 ∨ 1000 < n)) = true then
    some (py "Shelf verification interval must be between 1 and 1000 scans")
  else if f.hsn.any (fun s => decide (strip s = [])) = true then some (py "HSN cannot be blank")
  else if f.gstRate.any outsideHundred = true then some (py "GST rate must be between 0 and 100%")
  else none

/-- A number that SQLite stores; a `nan` becomes `NULL`, which the columns refuse. -/
def storable (p : Product) : Prop :=
  p.gstRate ≠ .nan ∧ p.defaultRate ≠ .nan ∧ p.salesDiscountRate ≠ .nan

instance (p : Product) : Decidable (storable p) := by
  unfold storable
  exact inferInstance

/-- A product that was inserted is storable. -/
theorem insertProduct_storable {row : Nat → Product} {db db' : Db} {p : Product}
    (h : insertProduct row db = (.ok p, db')) : storable p := by
  unfold insertProduct at h
  obtain ⟨seen, t₁, h₁, h⟩ := Tx.bind_ok.mp h
  obtain ⟨rfl, rfl⟩ := Tx.reads_ok.mp h₁
  obtain ⟨_, t₂, h₂, h⟩ := Tx.bind_ok.mp h
  obtain ⟨-, rfl⟩ := Tx.raiseIf_ok.mp h₂
  obtain ⟨_, t₃, h₃, h⟩ := Tx.bind_ok.mp h
  obtain ⟨hnan, rfl⟩ := Tx.raiseIf_ok.mp h₃
  obtain ⟨_, t₄, h₄, h⟩ := Tx.bind_ok.mp h
  obtain ⟨-, rfl⟩ := Tx.raiseIf_ok.mp h₄
  obtain ⟨_, t₅, h₅, h⟩ := Tx.bind_ok.mp h
  obtain ⟨rfl, -⟩ := Tx.pure_ok.mp h
  push Not at hnan
  exact hnan

/-- `update_product_pricing`. -/
def updateProductPricing (id : Nat) (f : PricingForm) : Tx PUnit := do
  let db ← Tx.reads fun db => db
  match db.product id with
  | none => pure ⟨⟩
  | some p =>
    match pricingError f with
    | some text => Tx.raise ⟨.value, text⟩
    | none => do
      Tx.raiseIf (¬ storable (f.over p)) ⟨.other, py "NOT NULL constraint failed"⟩
      updateProduct (f.over p)

/-! ## Usable numbers -/

/-- A finite number that is not negative. -/
def isAmount (f : PyFloat) : Bool := f.isFinite && !PyFloat.lt f .zero

/-- A finite number from zero to a hundred. -/
def isPercent (f : PyFloat) : Bool := isAmount f && !PyFloat.lt hundred f

/-- The GST rate, the default rate and the discount of a product can be used. -/
def usableRates (gstRate defaultRate salesDiscountRate : PyFloat) : Bool :=
  isPercent gstRate && isAmount defaultRate && isPercent salesDiscountRate

/-- A number that is neither below zero nor above a hundred is a percentage, or a `nan`. -/
theorem percent_of_inside {f : PyFloat} (hnan : f ≠ .nan) (h : outsideHundred f = false) :
    isPercent f = true := by
  obtain ⟨hlow, hhigh⟩ := Bool.or_eq_false_iff.mp h
  have hfinite : f.isFinite = true := by
    cases f with
    | nan => exact absurd rfl hnan
    | inf negative =>
      cases negative with
      | true => exact absurd hlow (by decide)
      | false => exact absurd hhigh (by decide)
    | finite negative d => rfl
  simp [isPercent, isAmount, hfinite, hlow, hhigh]

private theorem qrText_ok {v : Json} {name : PyStr} {limit : Nat} {b : Bool} {s : PyStr}
    (h : qrText v name limit b = .ok s) : v = .str s := by
  unfold qrText at h
  split at h
  · split at h
    · exact absurd h (by simp)
    · rw [Except.ok.inj h]
  · exact absurd h (by simp)

/-- A rate that was accepted is in its range. -/
private theorem qrRate_ok {rt : Runtime} {v : Json} {name : PyStr} {maximum : Option PyFloat}
    {f : PyFloat} (h : qrRate rt v name maximum = .ok f) :
    isAmount f = true ∧ ∀ m ∈ maximum, PyFloat.lt m f = false := by
  have hrange : ∀ g : PyFloat, (if g.isFinite = false ∨ PyFloat.lt g .zero = true ∨
      (maximum.any fun m => PyFloat.lt m g) = true then
        Except.error (masterSyncError (py "Master QR " ++ name ++ py " is out of range."))
      else .ok g) = .ok f → isAmount f = true ∧ ∀ m ∈ maximum, PyFloat.lt m f = false := by
    intro g hg
    split at hg
    · exact absurd hg (by simp)
    · next hin =>
      obtain rfl := Except.ok.inj hg
      push Not at hin
      obtain ⟨hfin, hneg, hmax⟩ := hin
      have hfinite : g.isFinite = true := by simpa using hfin
      have hsign : PyFloat.lt g .zero = false := by simpa using hneg
      refine ⟨by simp [isAmount, hfinite, hsign], ?_⟩
      intro m hm
      obtain rfl := hm
      simpa using hmax
  unfold qrRate at h
  -- A float is checked as it is, an integer is converted first; nothing else is a number.
  cases v with
  | float g => exact hrange g h
  | int z =>
    cases hz : rt.floatOfInt z with
    | some g =>
      simp only [hz] at h
      exact hrange g h
    | none =>
      simp only [hz] at h
      exact absurd h (by simp)
  | _ => exact absurd h (by simp)

private theorem qrRate_percent {rt : Runtime} {v : Json} {name : PyStr} {f : PyFloat}
    (h : qrRate rt v name (some hundred) = .ok f) : isPercent f = true := by
  obtain ⟨hamount, hmax⟩ := qrRate_ok h
  have := hmax hundred rfl
  simp [isPercent, hamount, this]

/-- The product code in the payload of an allocation or a product command. -/
def commandProductCode (payload : List (PyStr × Json)) : Option PyStr :=
  match getItem payload (py "product") with
  | .obj data =>
    match getItem data (py "product_code") with
    | .str code => some code
    | _ => none
  | _ => none

/-- What an allocation parses. -/
theorem parseAllocatedProduct_ok {rt : Runtime} {payload : List (PyStr × Json)}
    {a : AllocatedProduct} (h : parseAllocatedProduct rt payload = .ok a) :
    commandProductCode payload = some a.productCode ∧
      usableRates a.gstRate a.defaultRate a.salesDiscountRate = true := by
  unfold parseAllocatedProduct at h
  split at h
  next data hdata =>
    unfold commandProductCode
    rw [hdata]
    obtain ⟨code, hcode, h⟩ := except_bind_ok.mp h
    obtain ⟨_, -, h⟩ := except_bind_ok.mp h
    obtain ⟨_, -, h⟩ := except_bind_ok.mp h
    obtain ⟨_, -, h⟩ := except_bind_ok.mp h
    obtain ⟨_, -, h⟩ := except_bind_ok.mp h
    obtain ⟨_, -, h⟩ := except_bind_ok.mp h
    obtain ⟨gst, hgst, h⟩ := except_bind_ok.mp h
    obtain ⟨rate, hrate, h⟩ := except_bind_ok.mp h
    obtain ⟨discount, hdiscount, h⟩ := except_bind_ok.mp h
    split at h
    · exact absurd h (by simp)
    · obtain rfl := Except.ok.inj h
      refine ⟨?_, ?_⟩
      · dsimp only
        rw [qrText_ok hcode]
      · simp [usableRates, qrRate_percent hgst, (qrRate_ok hrate).1, qrRate_percent hdiscount]
  next => exact absurd h (by simp)

/-- What a product command parses. -/
theorem parseUpsert_ok {rt : Runtime} {payload : List (PyStr × Json)} {u : UpsertedProduct}
    (h : parseUpsert rt payload = .ok u) :
    commandProductCode payload = some u.productCode ∧
      usableRates u.gstRate u.defaultRate u.salesDiscountRate = true := by
  unfold parseUpsert at h
  split at h
  next data hdata =>
    unfold commandProductCode
    rw [hdata]
    obtain ⟨code, hcode, h⟩ := except_bind_ok.mp h
    obtain ⟨_, -, h⟩ := except_bind_ok.mp h
    obtain ⟨_, -, h⟩ := except_bind_ok.mp h
    obtain ⟨_, -, h⟩ := except_bind_ok.mp h
    obtain ⟨_, -, h⟩ := except_bind_ok.mp h
    obtain ⟨gst, hgst, h⟩ := except_bind_ok.mp h
    obtain ⟨_, -, h⟩ := except_bind_ok.mp h
    obtain ⟨rate, hrate, h⟩ := except_bind_ok.mp h
    obtain ⟨discount, hdiscount, h⟩ := except_bind_ok.mp h
    obtain rfl := Except.ok.inj h
    refine ⟨?_, ?_⟩
    · dsimp only
      rw [qrText_ok hcode]
    · simp [usableRates, qrRate_percent hgst, (qrRate_ok hrate).1, qrRate_percent hdiscount]
  next => exact absurd h (by simp)

/-! ## The catalogue -/

/-- The stored codes. -/
def Db.codes (db : Db) : List PyStr := db.products.map (·.productCode)

/-- What writes products. -/
inductive CatalogAction
  /-- `apply_master_command`, in a transaction of its own. -/
  | command (st : Settings) (now : Instant) (uuid : PyStr) (command : List (PyStr × Json))
  /-- `create_product`. -/
  | create (form : ProductForm)
  /-- `update_product_pricing`. -/
  | edit (id : Nat) (form : PricingForm)

/-- The transaction of an action. -/
def catalogTx (rt : Runtime) : CatalogAction → Tx PUnit
  | .command st now uuid command => do
    let _ ← applyMasterCommand rt st now uuid command
    pure ⟨⟩
  | .create form => createProduct form
  | .edit id form => updateProductPricing id form

/-- The catalogue under its writers, each in a transaction that commits or rolls back. -/
def catalogMachine (rt : Runtime) : Machine Db CatalogAction :=
  fun db a => some (Tx.atomically (catalogTx rt a) db).2

/-! ## Steps that never reach a product -/

/-- The command has been applied, or is refused, before its handler runs. -/
def commandIdle (db : Db) (parts : CommandParts) : Bool :=
  parts.schemaVersion != commandSchemaVersion || encodable [parts.commandId] == false ||
    match frozenPayload parts.payload with
    | .error _ => true
    | .ok (_, digest) =>
      match db.command parts.commandId with
      | some row =>
        row.payloadSha256 != digest || row.commandType != parts.commandType ||
          row.schemaVersion != parts.schemaVersion || decide (row.status = .applied)
      | none => false

/-- What is asked of the parts of a command is asked of no malformed one. -/
def decidableParts (P : CommandParts → Prop) [∀ parts, Decidable (P parts)] :
    (parsed : Except PyError CommandParts) →
      Decidable (match parsed with
        | .ok parts => P parts
        | .error _ => True)
  | .ok parts => inferInstanceAs (Decidable (P parts))
  | .error _ => inferInstanceAs (Decidable True)

/-- An item of the manifest is malformed, repeats a number or names no product. -/
def manifestRefused (rt : Runtime) : List PyStr → List Json → Bool
  | _, [] => false
  | seen, item :: items =>
    match parseManifestItem rt seen item with
    | .error _ => true
    | .ok parsed =>
      decide (snapshotCode rt parsed.product = []) ||
        manifestRefused rt (parsed.serialNumber :: seen) items

/-- A transfer command that is refused whatever its products are, or is known. -/
def transferRefused (rt : Runtime) (st : Settings) (db : Db)
    (payload : List (PyStr × Json)) : Bool :=
  match unwrapTransferPayload payload with
  | .error _ => true
  | .ok (data, manifest) =>
    let transferUuid := transferUuidOf rt data payload
    decide (transferUuid = []) || encodable [transferUuid] == false ||
      (db.transferNumbered transferUuid).isSome ||
      (parseIncoming rt st transferUuid data manifest).isOk == false ||
      manifestRefused rt [] manifest

/-- An allocation that is refused before its product is looked up. -/
def allocationRefused (rt : Runtime) (st : Settings) (db : Db) (payload : List (PyStr × Json)) :
    Bool :=
  (requireAddressed st payload (py "QR allocation") (py "QR allocation")).isOk == false ||
    (parseAllocatedProduct rt payload).isOk == false ||
    match parseAllocatedSerials rt payload with
    | .error _ => true
    | .ok serials =>
      db.serials.any fun s => (serials.map (·.serialNumber)).contains s.serialNumber

/-- A product command that is refused before its product is looked up. -/
def upsertRefused (rt : Runtime) (st : Settings) (payload : List (PyStr × Json)) : Bool :=
  (requireAddressed st payload (py "product") (py "product")).isOk == false ||
    (parseUpsert rt payload).isOk == false

/-- A product form that is refused, whatever its GST rate and its default rate. -/
def ProductForm.refused (form : ProductForm) (db : Db) : Prop :=
  outsideHundred form.salesDiscountRate = true ∨ form.shelfVerificationInterval < 1 ∨
    1000 < form.shelfVerificationInterval ∨ ¬ storable (form.row 0) ∨
    ∃ p ∈ db.products, p.productCode = normalizeSerial form.productCode

instance (form : ProductForm) (db : Db) : Decidable (form.refused db) := by
  unfold ProductForm.refused
  exact inferInstance

/-- A form that was accepted is not a refused one. -/
theorem createProduct_not_refused {form : ProductForm} {db db' : Db} {u : PUnit}
    (h : createProduct form db = (.ok u, db')) : ¬ form.refused db := by
  unfold createProduct at h
  obtain ⟨_, t₁, h₁, h⟩ := Tx.bind_ok.mp h
  obtain ⟨hdiscount, rfl⟩ := Tx.raiseIf_ok.mp h₁
  obtain ⟨_, t₂, h₂, h⟩ := Tx.bind_ok.mp h
  obtain ⟨hinterval, rfl⟩ := Tx.raiseIf_ok.mp h₂
  obtain ⟨p, t₃, h₃, -⟩ := Tx.bind_ok.mp h
  obtain ⟨hp, hfresh, -⟩ := insertProduct_ok h₃
  rintro (hout | hlow | hhigh | hnan | ⟨q, hq, hcode⟩)
  · exact hdiscount hout
  · exact hinterval (Or.inl hlow)
  · exact hinterval (Or.inr hhigh)
  · have hs := insertProduct_storable h₃
    rw [hp] at hs
    exact hnan hs
  · refine hfresh q hq ?_
    rw [hp]
    exact hcode

/-- A manifest that was received has no item that is refused. -/
private theorem receiveManifest_not_refused {rt : Runtime} {now : Instant} {transferId : Nat}
    {items : List Json} :
    ∀ {seen : List PyStr} {db db' : Db} {u : PUnit},
      receiveManifest rt now transferId seen items db = (.ok u, db') →
      manifestRefused rt seen items = false := by
  induction items with
  | nil =>
    intro seen db db' u _
    rfl
  | cons item items ih =>
    intro seen db db' u h
    unfold receiveManifest at h
    obtain ⟨parsed, t₁, h₁, h⟩ := Tx.bind_ok.mp h
    obtain ⟨hparsed, rfl⟩ := Tx.lift_ok.mp h₁
    obtain ⟨_, t₂, h₂, hrest⟩ := Tx.bind_ok.mp h
    unfold receiveManifestItem materializeProduct at h₂
    obtain ⟨product, t₃, h₃, -⟩ := Tx.bind_ok.mp h₂
    obtain ⟨_, t₄, h₄, -⟩ := Tx.bind_ok.mp h₃
    obtain ⟨hcode, -⟩ := Tx.raiseIf_ok.mp h₄
    unfold manifestRefused
    rw [hparsed]
    dsimp only
    rw [decide_eq_false hcode, ih hrest]
    rfl

/-- A transfer that was applied is refused nowhere, unless it was known and nothing changed. -/
theorem applyTransferAvailable_not_refused {rt : Runtime} {st : Settings} {now : Instant}
    {payload : List (PyStr × Json)} {db db' : Db} {u : PUnit}
    (h : applyTransferAvailableCommand rt st now payload db = (.ok u, db')) :
    db' = db ∨ transferRefused rt st db payload = false := by
  unfold applyTransferAvailableCommand at h
  obtain ⟨⟨data, manifest⟩, t₁, h₁, h⟩ := Tx.bind_ok.mp h
  obtain ⟨hpayload, rfl⟩ := Tx.lift_ok.mp h₁
  obtain ⟨_, t₂, h₂, h⟩ := Tx.bind_ok.mp h
  obtain ⟨huuid, rfl⟩ := Tx.raiseIf_ok.mp h₂
  obtain ⟨_, t₃, h₃, h⟩ := Tx.bind_ok.mp h
  obtain ⟨hencodable, rfl⟩ := Tx.raiseIf_ok.mp h₃
  obtain ⟨seen, t₄, h₄, h⟩ := Tx.bind_ok.mp h
  obtain ⟨rfl, rfl⟩ := Tx.reads_ok.mp h₄
  cases hfound : db.transferNumbered (transferUuidOf rt data payload) with
  | some existing =>
    rw [hfound] at h
    obtain ⟨-, rfl⟩ := Tx.raiseIf_ok.mp h
    exact Or.inl rfl
  | none =>
    rw [hfound] at h
    obtain ⟨incoming, t₅, h₅, h⟩ := Tx.bind_ok.mp h
    obtain ⟨hincoming, rfl⟩ := Tx.lift_ok.mp h₅
    obtain ⟨transfer, t₆, h₆, h⟩ := Tx.bind_ok.mp h
    refine Or.inr ?_
    unfold transferRefused
    rw [hpayload]
    dsimp only
    rw [decide_eq_false huuid, hfound, hincoming, receiveManifest_not_refused h]
    simpa [Except.isOk, Except.toBool] using hencodable

/-- An allocation that was applied is not refused before its product. -/
theorem applyQrAllocated_not_refused {rt : Runtime} {st : Settings} {now : Instant}
    {payload : List (PyStr × Json)} {db db' : Db} {u : PUnit}
    (h : applyQrAllocatedCommand rt st now payload db = (.ok u, db')) :
    allocationRefused rt st db payload = false := by
  unfold applyQrAllocatedCommand at h
  obtain ⟨_, t₁, h₁, h⟩ := Tx.bind_ok.mp h
  obtain ⟨haddressed, rfl⟩ := Tx.lift_ok.mp h₁
  obtain ⟨product, t₂, h₂, h⟩ := Tx.bind_ok.mp h
  obtain ⟨hproduct, rfl⟩ := Tx.lift_ok.mp h₂
  obtain ⟨serials, t₃, h₃, h⟩ := Tx.bind_ok.mp h
  obtain ⟨hserials, rfl⟩ := Tx.lift_ok.mp h₃
  obtain ⟨seen, t₄, h₄, h⟩ := Tx.bind_ok.mp h
  obtain ⟨rfl, rfl⟩ := Tx.reads_ok.mp h₄
  obtain ⟨_, t₅, h₅, h⟩ := Tx.bind_ok.mp h
  obtain ⟨hfree, rfl⟩ := Tx.lift_ok.mp h₅
  have hnone : (db.serials.filter fun s =>
      (serials.map (·.serialNumber)).contains s.serialNumber) = [] := by
    split at hfree
    · exact absurd hfree (by simp)
    next hnil => exact hnil
  unfold allocationRefused
  rw [haddressed, hproduct, hserials]
  dsimp only
  rw [List.any_eq_false.mpr (List.filter_eq_nil_iff.mp hnone)]
  rfl

/-- A product command that was applied is not refused before its product. -/
theorem applyProductUpsert_not_refused {rt : Runtime} {st : Settings}
    {payload : List (PyStr × Json)} {db db' : Db} {u : PUnit}
    (h : applyProductUpsertCommand rt st payload db = (.ok u, db')) :
    upsertRefused rt st payload = false := by
  unfold applyProductUpsertCommand at h
  obtain ⟨_, t₁, h₁, h⟩ := Tx.bind_ok.mp h
  obtain ⟨haddressed, rfl⟩ := Tx.lift_ok.mp h₁
  obtain ⟨product, t₂, h₂, -⟩ := Tx.bind_ok.mp h
  obtain ⟨hproduct, -⟩ := Tx.lift_ok.mp h₂
  unfold upsertRefused
  rw [haddressed, hproduct]
  rfl

/-- A command that was accepted ran its handler, up to the inbox, or changed nothing. -/
theorem applyMasterCommand_run {rt : Runtime} {st : Settings} {now : Instant} {uuid : PyStr}
    {command : List (PyStr × Json)} {db db' : Db} {row : MasterInboxCommand}
    (h : applyMasterCommand rt st now uuid command db = (.ok row, db')) :
    db' = db ∨ ∃ parts before after u inbox, commandParts rt command = .ok parts ∧
      commandIdle db parts = false ∧
      runHandler rt st now uuid parts { db with inbox := before } = (.ok u, after) ∧
      db' = { after with inbox := inbox } := by
  unfold applyMasterCommand at h
  obtain ⟨parts, t₁, h₁, h⟩ := Tx.bind_ok.mp h
  obtain ⟨hparts, rfl⟩ := Tx.lift_ok.mp h₁
  obtain ⟨_, t₂, h₂, h⟩ := Tx.bind_ok.mp h
  obtain ⟨hschema, rfl⟩ := Tx.raiseIf_ok.mp h₂
  obtain ⟨⟨text, digest⟩, t₃, h₃, h⟩ := Tx.bind_ok.mp h
  obtain ⟨hfrozen, rfl⟩ := Tx.lift_ok.mp h₃
  obtain ⟨_, t₄, h₄, h⟩ := Tx.bind_ok.mp h
  obtain ⟨hencodable, rfl⟩ := Tx.raiseIf_ok.mp h₄
  obtain ⟨seen, t₅, h₅, h⟩ := Tx.bind_ok.mp h
  obtain ⟨rfl, rfl⟩ := Tx.reads_ok.mp h₅
  -- Whether the row is old or new, the handler runs between two writes of the inbox.
  have hrun : ∀ (found : MasterInboxCommand) (s : Db), (∃ x, s = { db with inbox := x }) →
      runCommand rt st now uuid parts found s = (.ok row, db') →
      ∃ before after u inbox,
        runHandler rt st now uuid parts { db with inbox := before } = (.ok u, after) ∧
        db' = { after with inbox := inbox } := by
    rintro found s ⟨x, rfl⟩ hcommand
    unfold runCommand at hcommand
    obtain ⟨_, u₁, k₁, hcommand⟩ := Tx.bind_ok.mp hcommand
    obtain rfl := Tx.modify_ok.mp k₁
    obtain ⟨v, u₂, k₂, hcommand⟩ := Tx.bind_ok.mp hcommand
    obtain ⟨_, u₃, k₃, hcommand⟩ := Tx.bind_ok.mp hcommand
    obtain rfl := Tx.modify_ok.mp k₃
    obtain ⟨-, rfl⟩ := Tx.pure_ok.mp hcommand
    exact ⟨_, u₂, v, _, Tx.onError_ok.mp k₂, rfl⟩
  cases hfound : db.command parts.commandId with
  | some found =>
    rw [hfound] at h
    obtain ⟨_, t₆, h₆, h⟩ := Tx.bind_ok.mp h
    obtain ⟨hsame, rfl⟩ := Tx.raiseIf_ok.mp h₆
    by_cases happlied : found.status = .applied
    · rw [if_pos happlied] at h
      obtain ⟨-, rfl⟩ := Tx.pure_ok.mp h
      exact Or.inl rfl
    · rw [if_neg happlied] at h
      obtain ⟨before, after, u, inbox, hhandler, hafter⟩ := hrun found _ ⟨_, rfl⟩ h
      refine Or.inr ⟨parts, before, after, u, inbox, hparts, ?_, hhandler, hafter⟩
      push Not at hsame
      simp_all [commandIdle]
  | none =>
    rw [hfound] at h
    obtain ⟨new, t₆, h₆, h⟩ := Tx.bind_ok.mp h
    obtain ⟨-, -, rfl⟩ := insertCommand_ok h₆
    obtain ⟨before, after, u, inbox, hhandler, hafter⟩ := hrun new _ ⟨_, rfl⟩ h
    refine Or.inr ⟨parts, before, after, u, inbox, hparts, ?_, hhandler, hafter⟩
    simp_all [commandIdle]

/-! ## Sample actions -/

/-- The payload of a command of Master about a product, with further members. -/
def productPayload (code : PyStr) (rest : List (PyStr × Json)) : Json :=
  .obj ([(py "version", .int 1), (py "franchise_code", .str (py "HOME")),
    (py "product", .obj [(py "product_code", .str code), (py "product_name", .str (py "Tea")),
      (py "hsn", .str (py "0902")), (py "tally_stock_item_name", .str (py "Tea")),
      (py "gst_rate", .int 5)])] ++ rest)

/-- A command of Master. -/
def masterCommand (id type_ : PyStr) (payload : Json) : List (PyStr × Json) :=
  [(py "command_id", .str id), (py "command_type", .str type_), (py "payload", payload)]

/-- An allocation of one QR to a product code. -/
def allocateOne (id code : PyStr) : CatalogAction :=
  .command homeSettings 63900000000000000 (py "u") (masterCommand id (py "QR_ALLOCATED")
    (productPayload code [(py "serials", .arr [.obj [
      (py "serial_number", .str (py "SQR-0123456789ABCDEF0123456789ABCDEF")),
      (py "status", .str (py "GENERATED"))]])]))

/-- A transfer of one serial of a product code. -/
def transferOne (id code : PyStr) : CatalogAction :=
  .command homeSettings 63900000000000000 (py "u") (masterCommand id (py "TRANSFER_AVAILABLE")
    (.obj [(py "transfer_id", .str (py "T-1")), (py "source_code", .str (py "AWAY")),
      (py "items",
        .arr [.obj [(py "serial_number", .str (py "AWAY-1")), (py "product_code", .str code),
        (py "product_name", .str (py "Tea")), (py "gst_rate", .int 5)]])]))

/-- A product command. -/
def upsertOne (id code : PyStr) : CatalogAction :=
  .command homeSettings 63900000000000000 (py "u")
    (masterCommand id (py "PRODUCT_UPSERT") (productPayload code []))

end SetuoraLite
