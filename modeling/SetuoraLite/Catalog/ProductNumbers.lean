import SetuoraLite.Catalog.Products
import SetuoraLite.Stock.Submission

/-!
# Product numbers

Every event that lists products embeds their rates, and an event that holds an
infinite number is no JSON that Master can parse. The five writers of products check
different fields: the commands of Master check all of them, the product form checks
the discount and the interval, the pricing form everything but an infinite rate, and
a transfer manifest checks nothing. `NumbersInRange` says when a step stores usable
numbers only.
-/

namespace SetuoraLite

open Lib

/-- The numbers of a stored product can be used. -/
def Product.usable (p : Product) : Bool :=
  usableRates p.gstRate p.defaultRate p.salesDiscountRate &&
    decide (1 ≤ p.shelfVerificationInterval)

/-- Every stored product is usable. -/
def AllUsable (db : Db) : Prop := ∀ p ∈ db.products, p.usable = true

instance (db : Db) : Decidable (AllUsable db) := by
  unfold AllUsable
  exact inferInstance

/-! ## When a step stores usable numbers -/

/-- The numbers are usable, or one of them is a `nan`, which no column accepts. -/
def storesUsable (gstRate defaultRate salesDiscountRate : PyFloat) : Bool :=
  gstRate == .nan || defaultRate == .nan || salesDiscountRate == .nan ||
    usableRates gstRate defaultRate salesDiscountRate

/-- The numbers of a manifest item that may bring a product, among codes that are known:
only the first item of a new code brings them. -/
def manifestInRange (rt : Runtime) : List PyStr → List Json → Bool
  | _, [] => true
  | known, item :: items =>
    match item with
    | .obj members =>
      match firstTruthy [getItem members (py "product"), .obj members] with
      | .obj product =>
        let code := snapshotCode rt product
        if code ∈ known then manifestInRange rt known items
        else
          match snapshotProduct rt code product with
          | .ok row => storesUsable (row 0).gstRate (row 0).defaultRate (row 0).salesDiscountRate &&
              manifestInRange rt (code :: known) items
          | .error _ => true
      | _ => true
    | _ => true

/-- When a command stores usable numbers only: its numbers are checked, or it is a
transfer that is refused, or brings usable numbers. -/
def CommandInRange (rt : Runtime) (st : Settings) (db : Db) (parts : CommandParts) : Prop :=
  if parts.commandType = py "TRANSFER_AVAILABLE" ∨ parts.commandType = py "TRANSFER_INCOMING" then
    transferRefused rt st db parts.payload = true ∨
      (unwrapTransferPayload parts.payload).toOption.all (fun x =>
        manifestInRange rt (db.products.map (·.productCode)) x.2) = true
  else True

instance (rt : Runtime) (st : Settings) (db : Db) (parts : CommandParts) :
    Decidable (CommandInRange rt st db parts) := by
  unfold CommandInRange
  exact inferInstance

/-- When an action stores usable numbers only. -/
def NumbersInRange (rt : Runtime) (db : Db) : CatalogAction → Prop
  | .command st _ _ command =>
    match commandParts rt command with
    | .ok parts => CommandInRange rt st db parts ∨ commandIdle db parts = true
    | .error _ => True
  | .create form =>
    form.refused db ∨ usableRates form.gstRate form.defaultRate form.salesDiscountRate = true
  | .edit id form =>
    match db.product id with
    | some p => form.defaultRate ≠ .inf false ∨ pricingError form ≠ none ∨ ¬ storable (form.over p)
    | none => True

instance (rt : Runtime) (db : Db) : (a : CatalogAction) → Decidable (NumbersInRange rt db a)
  | .command st _ _ command =>
    decidableParts (fun parts => CommandInRange rt st db parts ∨ commandIdle db parts = true)
      (commandParts rt command)
  | .create form => inferInstanceAs (Decidable (form.refused db ∨ _))
  | .edit id form => by
    unfold NumbersInRange
    dsimp only
    cases db.product id <;> exact inferInstance

/-! ## The writers -/

/-- A transaction that writes no product keeps all of them usable. -/
private theorem usable_of_keeps {α : Type} {x : Tx α} (hx : Tx.Keeps (·.products) x) :
    Tx.Preserves AllUsable x := by
  refine .of_keeps hx fun s t he h => ?_
  unfold AllUsable
  rw [show t.products = s.products from he]
  exact h

/-- A new product in range keeps the table in range. -/
private theorem insertProduct_usable {row : Nat → Product}
    (hrow : ∀ id, storable (row id) → (row id).usable = true) :
    Tx.Preserves AllUsable (insertProduct row) := by
  intro db db' p hI h
  obtain ⟨hp, -, rfl⟩ := insertProduct_ok h
  have hstorable := insertProduct_storable h
  intro q hq
  rcases List.mem_append.mp hq with hold | hnew
  · exact hI q hold
  · obtain rfl := List.mem_singleton.mp hnew
    rw [hp] at hstorable ⊢
    exact hrow _ hstorable

private theorem updateProduct_usable {p : Product} (hp : p.usable = true) :
    Tx.Preserves AllUsable (updateProduct p) := by
  intro db db' u hI h
  obtain rfl := updateProduct_ok h
  intro q hq
  obtain ⟨q₀, hq₀, rfl⟩ := mem_modifyRow.mp hq
  split
  · exact hp
  · exact hI q₀ hq₀

/-- A row without a `nan` stores what it says. -/
private theorem storesUsable_ok {p : Product} (hs : storable p)
    (h : storesUsable p.gstRate p.defaultRate p.salesDiscountRate = true) :
    usableRates p.gstRate p.defaultRate p.salesDiscountRate = true := by
  obtain ⟨hgst, hrate, hdiscount⟩ := hs
  unfold storesUsable at h
  simpa [hgst, hrate, hdiscount] using h

/-- A product is in range when each of its numbers is. -/
private theorem usable_of_rates {p : Product}
    (hrates : usableRates p.gstRate p.defaultRate p.salesDiscountRate = true)
    (hinterval : 1 ≤ p.shelfVerificationInterval) : p.usable = true := by
  simp [Product.usable, hrates, hinterval]

/-- The numbers of a product that is in range. -/
private theorem usable_iff {p : Product} : p.usable = true ↔
    usableRates p.gstRate p.defaultRate p.salesDiscountRate = true ∧
    1 ≤ p.shelfVerificationInterval := by
  simp [Product.usable]

/-- A matching product is a stored one. -/
private theorem mem_of_matching {db : Db} {code : PyStr} {p : Product} {rest : List Product}
    (h : matchingProducts db code = p :: rest) : p ∈ db.products := by
  have hmem : p ∈ matchingProducts db code := h ▸ List.mem_cons_self
  exact (List.mem_filter.mp (List.mem_of_mem_take hmem)).1

/-! ## Commands of Master -/

/-- A product allocated by Master is in range, by the condition. -/
private theorem allocatedProduct_usable {rt : Runtime} {a : AllocatedProduct}
    (ha : usableRates a.gstRate a.defaultRate a.salesDiscountRate = true) :
    Tx.Preserves AllUsable (allocatedProduct rt a) := by
  refine .bind_reads fun db db' p hI h => ?_
  cases hfound : matchingProducts db a.productCode with
  | nil =>
    rw [hfound] at h
    have hrow : ∀ id, storable (a.row id) → (a.row id).usable = true :=
      fun id _ => usable_of_rates ha (le_refl (1 : Int))
    exact insertProduct_usable hrow db db' p hI h
  | cons q rest =>
    rw [hfound] at h
    cases rest with
    | nil =>
      have hq := usable_iff.mp (hI q (mem_of_matching hfound))
      -- Only the Tally name may be filled in.
      refine Tx.Preserves.bind (.lift _) (fun _ => .bind (updateProduct_usable ?_) fun _ => .pure _)
        db db' p hI h
      split
      · exact usable_of_rates hq.1 hq.2
      · exact usable_of_rates hq.1 hq.2
    | cons q' rest => exact absurd h Tx.raise_ok

private theorem applyQrAllocated_usable (rt : Runtime) (st : Settings) (now : Instant)
    (payload : List (PyStr × Json)) :
    Tx.Preserves AllUsable (applyQrAllocatedCommand rt st now payload) := by
  intro db db' u hI h
  unfold applyQrAllocatedCommand at h
  obtain ⟨_, t₁, h₁, h⟩ := Tx.bind_ok.mp h
  obtain ⟨-, rfl⟩ := Tx.lift_ok.mp h₁
  obtain ⟨product, t₂, h₂, h⟩ := Tx.bind_ok.mp h
  obtain ⟨hproduct, rfl⟩ := Tx.lift_ok.mp h₂
  have hrates := (parseAllocatedProduct_ok hproduct).2
  refine Tx.Preserves.bind (.lift _) (fun serials => .bind_reads fun s s' v hs hrun => ?_)
    db db' u hI h
  refine Tx.Preserves.bind (.lift _)
    (fun _ => .bind (allocatedProduct_usable hrates) fun stored => ?_)
    s s' v hs hrun
  have hkept : Tx.Keeps (fun d : Db => d.products) (Tx.each (fun (p : ParsedSerial) => do
      let _ ← insertSerial (p.row stored.id now)
      pure ⟨⟩) serials : Tx PUnit) :=
    .each (fun _ => .bind (insertSerial_keeps (fun _ _ => rfl) _) fun _ => .pure _) _
  exact usable_of_keeps hkept

private theorem applyProductUpsert_usable (rt : Runtime) (st : Settings)
    (payload : List (PyStr × Json)) :
    Tx.Preserves AllUsable (applyProductUpsertCommand rt st payload) := by
  intro db db' u hI h
  unfold applyProductUpsertCommand at h
  obtain ⟨_, t₁, h₁, h⟩ := Tx.bind_ok.mp h
  obtain ⟨-, rfl⟩ := Tx.lift_ok.mp h₁
  obtain ⟨product, t₂, h₂, h⟩ := Tx.bind_ok.mp h
  obtain ⟨hproduct, rfl⟩ := Tx.lift_ok.mp h₂
  have hrates := (parseUpsert_ok hproduct).2
  refine Tx.Preserves.bind_reads (fun s s' v hs hrun => ?_) db db' u hI h
  cases hfound : matchingProducts s product.productCode with
  | nil =>
    rw [hfound] at hrun
    have hrow : ∀ id, storable (product.row id) → (product.row id).usable = true :=
      fun id _ => usable_of_rates hrates (le_refl (1 : Int))
    exact Tx.Preserves.bind (insertProduct_usable hrow) (fun _ => .pure _) s s' v hs hrun
  | cons q rest =>
    rw [hfound] at hrun
    cases rest with
    | nil =>
      -- The stored product takes the new GST rate and keeps its own default rate and discount.
      have hq := usable_iff.mp (hs q (mem_of_matching hfound))
      have hover : (product.over q).usable = true := by
        refine usable_of_rates ?_ hq.2
        have hstored := hq.1
        unfold usableRates at hrates hstored ⊢
        simp only [Bool.and_eq_true] at hrates hstored ⊢
        exact ⟨⟨hrates.1.1, hstored.1.2⟩, hstored.2⟩
      exact updateProduct_usable hover s s' v hs hrun
    | cons q' rest => exact absurd hrun Tx.raise_ok

/-! ## Manifests -/

/-- Usable products whose codes are the known ones. -/
private def KnownStored (known : List PyStr) (db : Db) : Prop :=
  AllUsable db ∧ ∀ code, code ∈ known ↔ ∃ p ∈ db.products, p.productCode = code

/-- What leaves the products alone keeps the known ones. -/
private theorem knownStored_of_keeps {α : Type} {x : Tx α} (hx : Tx.Keeps (·.products) x)
    (known : List PyStr) : Tx.Preserves (KnownStored known) x := by
  refine .of_keeps hx fun s t he h => ?_
  unfold KnownStored AllUsable
  rw [show t.products = s.products from he]
  exact h

/-- The row of a manifest product. -/
private theorem snapshotProduct_ok {rt : Runtime} {code : PyStr} {snapshot : List (PyStr × Json)}
    {row : Nat → Product} (h : snapshotProduct rt code snapshot = .ok row) (id : Nat) :
    row id = { row 0 with id := id } ∧ (row id).productCode = code ∧
      (row id).shelfVerificationInterval = 1 := by
  unfold snapshotProduct at h
  obtain ⟨_, -, h⟩ := except_bind_ok.mp h
  obtain ⟨_, -, h⟩ := except_bind_ok.mp h
  obtain ⟨_, -, h⟩ := except_bind_ok.mp h
  obtain ⟨_, -, h⟩ := except_bind_ok.mp h
  obtain ⟨_, -, h⟩ := except_bind_ok.mp h
  obtain ⟨_, -, h⟩ := except_bind_ok.mp h
  obtain ⟨_, -, h⟩ := except_bind_ok.mp h
  obtain rfl := Except.ok.inj h
  exact ⟨rfl, rfl, rfl⟩

/-- The product of a manifest item: known, or brought with usable numbers. -/
private theorem materializeProduct_usable {rt : Runtime} {snapshot : List (PyStr × Json)}
    {known : List PyStr} {db db' : Db} {p : Product} (hI : KnownStored known db)
    (hrange : snapshotCode rt snapshot ∉ known → ∀ row,
      snapshotProduct rt (snapshotCode rt snapshot) snapshot = .ok row →
      storesUsable (row 0).gstRate (row 0).defaultRate (row 0).salesDiscountRate = true)
    (h : materializeProduct rt snapshot db = (.ok p, db')) :
    KnownStored (snapshotCode rt snapshot :: known) db' := by
  unfold materializeProduct at h
  obtain ⟨_, t₁, h₁, h⟩ := Tx.bind_ok.mp h
  obtain ⟨-, rfl⟩ := Tx.raiseIf_ok.mp h₁
  obtain ⟨seen, t₂, h₂, h⟩ := Tx.bind_ok.mp h
  obtain ⟨rfl, rfl⟩ := Tx.reads_ok.mp h₂
  obtain ⟨husable, hknown⟩ := hI
  cases hfound : lookup (·.productCode) (snapshotCode rt snapshot) db.products with
  -- The product is known: it is neither written nor added to.
  | some found =>
    rw [hfound] at h
    obtain ⟨hmem, hcode⟩ := lookup_some hfound
    obtain ⟨_, t₃, h₃, h⟩ := Tx.bind_ok.mp h
    obtain ⟨-, rfl⟩ := Tx.lift_ok.mp h₃
    obtain ⟨-, rfl⟩ := Tx.pure_ok.mp h
    refine ⟨husable, fun code => ?_⟩
    rw [List.mem_cons, ← hknown code]
    exact or_iff_right_of_imp fun heq => (hknown code).mpr ⟨found, hmem, hcode.trans heq.symm⟩
  -- A new product: its numbers are in range, by the condition, or its code was known.
  | none =>
    rw [hfound] at h
    obtain ⟨row, t₃, h₃, h⟩ := Tx.bind_ok.mp h
    obtain ⟨hrow, rfl⟩ := Tx.lift_ok.mp h₃
    have hnew : snapshotCode rt snapshot ∉ known := by
      intro hin
      obtain ⟨q, hq, hcode⟩ := (hknown _).mp hin
      exact lookup_none.mp hfound q hq hcode
    have hstores := hrange hnew row hrow
    have hrowUsable : ∀ id, storable (row id) → (row id).usable = true := by
      intro id hs
      obtain ⟨hid, -, hinterval⟩ := snapshotProduct_ok hrow id
      refine usable_of_rates (storesUsable_ok hs ?_) (by rw [hinterval])
      rw [hid]
      exact hstores
    refine ⟨insertProduct_usable hrowUsable db db' p husable h, ?_⟩
    obtain ⟨hp, -, rfl⟩ := insertProduct_ok h
    intro code
    have hpcode : p.productCode = snapshotCode rt snapshot := by
      rw [hp]
      exact (snapshotProduct_ok hrow _).2.1
    rw [List.mem_cons, hknown code]
    constructor
    · rintro (rfl | ⟨q, hq, hcode⟩)
      · exact ⟨p, by simp, hpcode⟩
      · exact ⟨q, List.mem_append_left _ hq, hcode⟩
    · rintro ⟨q, hq, hcode⟩
      rcases List.mem_append.mp hq with hold | hnew'
      · exact Or.inr ⟨q, hold, hcode⟩
      · obtain rfl := List.mem_singleton.mp hnew'
        exact Or.inl (hcode.symm.trans hpcode)

/-- A manifest item of an unknown code brings a row. -/
private theorem materializeProduct_row {rt : Runtime} {snapshot : List (PyStr × Json)}
    {known : List PyStr} {db db' : Db} {p : Product} (hI : KnownStored known db)
    (hnew : snapshotCode rt snapshot ∉ known)
    (h : materializeProduct rt snapshot db = (.ok p, db')) :
    ∃ row, snapshotProduct rt (snapshotCode rt snapshot) snapshot = .ok row := by
  unfold materializeProduct at h
  obtain ⟨_, t₁, h₁, h⟩ := Tx.bind_ok.mp h
  obtain ⟨-, rfl⟩ := Tx.raiseIf_ok.mp h₁
  obtain ⟨seen, t₂, h₂, h⟩ := Tx.bind_ok.mp h
  obtain ⟨rfl, rfl⟩ := Tx.reads_ok.mp h₂
  cases hfound : lookup (·.productCode) (snapshotCode rt snapshot) db.products with
  | some found =>
    obtain ⟨hmem, hcode⟩ := lookup_some hfound
    exact absurd ((hI.2 _).mpr ⟨found, hmem, hcode⟩) hnew
  | none =>
    rw [hfound] at h
    obtain ⟨row, t₃, h₃, h⟩ := Tx.bind_ok.mp h
    exact ⟨row, (Tx.lift_ok.mp h₃).1⟩

/-- What a parsed item says of its manifest item. -/
private theorem parseManifestItem_product {rt : Runtime} {seen : List PyStr} {item : Json}
    {parsed : ManifestItem} (h : parseManifestItem rt seen item = .ok parsed) :
    ∃ members, item = .obj members ∧
      firstTruthy [getItem members (py "product"), .obj members] = .obj parsed.product := by
  unfold parseManifestItem at h
  cases item with
  | obj members =>
    dsimp only at h
    split at h
    next product serial hproduct hserial =>
      split at h
      · exact absurd h (by simp)
      · split at h
        · exact absurd h (by simp)
        · rw [← Except.ok.inj h]
          exact ⟨members, rfl, hproduct⟩
    next => exact absurd h (by simp)
  | _ => exact absurd h (by simp)

/-- The manifest loop. -/
private theorem receiveManifest_usable {rt : Runtime} {now : Instant} {transferId : Nat}
    {items : List Json} :
    ∀ {known seen : List PyStr} {db db' : Db} {u : PUnit}, manifestInRange rt known items = true →
      KnownStored known db → receiveManifest rt now transferId seen items db = (.ok u, db') →
      AllUsable db' := by
  induction items with
  | nil =>
    intro known seen db db' u _ hI h
    obtain ⟨-, rfl⟩ := Tx.pure_ok.mp h
    exact hI.1
  | cons item items ih =>
    intro known seen db db' u hrange hI h
    unfold receiveManifest at h
    obtain ⟨parsed, t₁, h₁, h⟩ := Tx.bind_ok.mp h
    obtain ⟨hparsed, rfl⟩ := Tx.lift_ok.mp h₁
    obtain ⟨_, t₂, h₂, hrest⟩ := Tx.bind_ok.mp h
    unfold receiveManifestItem at h₂
    obtain ⟨product, t₃, h₃, h₂⟩ := Tx.bind_ok.mp h₂
    obtain ⟨members, rfl, hproduct⟩ := parseManifestItem_product hparsed
    unfold manifestInRange at hrange
    dsimp only at hrange
    rw [hproduct] at hrange
    dsimp only at hrange
    have hkeep : Tx.Keeps (fun d : Db => d.products) (do
        let serial ← incomingSerial rt now parsed.serialNumber product parsed.serial
        let _ ← insertTransferItem (transferItemRow transferId serial product)
        pure ⟨⟩ : Tx PUnit) :=
      .bind (incomingSerial_keeps (fun _ _ => rfl) _ _ _ _ _) fun _ =>
        .bind (insertTransferItem_keeps (fun _ _ => rfl) _) fun _ => .pure _
    by_cases hin : snapshotCode rt parsed.product ∈ known
    · -- A known code: the product is found.
      rw [if_pos hin] at hrange
      have hmaterialized := materializeProduct_usable hI (fun hnot => absurd hin hnot) h₃
      have hnext := knownStored_of_keeps hkeep _ _ _ _ hmaterialized h₂
      refine ih hrange ⟨hnext.1, fun code => ?_⟩ hrest
      rw [← hnext.2 code, List.mem_cons]
      exact (or_iff_right_of_imp fun heq => heq ▸ hin).symm
    · -- The first item of a new code brings its numbers.
      rw [if_neg hin] at hrange
      obtain ⟨row, hrow⟩ := materializeProduct_row hI hin h₃
      rw [hrow] at hrange
      obtain ⟨hstores, hrange⟩ := (Bool.and_eq_true _ _).mp hrange
      have hmaterialized := materializeProduct_usable hI (fun _ row' hrow' => by
        obtain rfl := Except.ok.inj (hrow.symm.trans hrow')
        exact hstores) h₃
      exact ih hrange (knownStored_of_keeps hkeep _ _ _ _ hmaterialized h₂) hrest

/-- An incoming transfer keeps the products in range. -/
private theorem applyTransferAvailable_usable {rt : Runtime} {st : Settings} {now : Instant}
    {payload : List (PyStr × Json)} {db db' : Db} {u : PUnit} (hI : AllUsable db)
    (hrange : (unwrapTransferPayload payload).toOption.all (fun x =>
      manifestInRange rt (db.products.map (·.productCode)) x.2) = true)
    (h : applyTransferAvailableCommand rt st now payload db = (.ok u, db')) : AllUsable db' := by
  unfold applyTransferAvailableCommand at h
  obtain ⟨⟨data, manifest⟩, t₁, h₁, h⟩ := Tx.bind_ok.mp h
  obtain ⟨hpayload, rfl⟩ := Tx.lift_ok.mp h₁
  obtain ⟨_, t₂, h₂, h⟩ := Tx.bind_ok.mp h
  obtain ⟨-, rfl⟩ := Tx.raiseIf_ok.mp h₂
  obtain ⟨_, t₃, h₃, h⟩ := Tx.bind_ok.mp h
  obtain ⟨-, rfl⟩ := Tx.raiseIf_ok.mp h₃
  obtain ⟨seen, t₄, h₄, h⟩ := Tx.bind_ok.mp h
  obtain ⟨rfl, rfl⟩ := Tx.reads_ok.mp h₄
  have hknown : KnownStored (db.products.map (·.productCode)) db :=
    ⟨hI, fun code => by simp only [List.mem_map]⟩
  cases hfound : db.transferNumbered (transferUuidOf rt data payload) with
  | some existing =>
    rw [hfound] at h
    obtain ⟨-, rfl⟩ := Tx.raiseIf_ok.mp h
    exact hI
  | none =>
    rw [hfound] at h
    obtain ⟨incoming, t₅, h₅, h⟩ := Tx.bind_ok.mp h
    obtain ⟨-, rfl⟩ := Tx.lift_ok.mp h₅
    obtain ⟨transfer, t₆, h₆, h⟩ := Tx.bind_ok.mp h
    have hkept := knownStored_of_keeps (insertTransfer_keeps (fun _ _ => rfl) _) _ _ _ _ hknown h₆
    rw [hpayload] at hrange
    exact receiveManifest_usable hrange hkept h

/-! ## The forms -/

/-- A number that is not below zero is an amount, or infinite, or a `nan`. -/
private theorem amount_of_nonneg {f : PyFloat} (hnan : f ≠ .nan) (hinf : f ≠ .inf false)
    (h : PyFloat.lt f .zero = false) : isAmount f = true := by
  have hfinite : f.isFinite = true := by
    cases f with
    | nan => exact absurd rfl hnan
    | inf negative =>
      cases negative with
      | true => exact absurd h (by decide)
      | false => exact absurd rfl hinf
    | finite negative d => rfl
  simp [isAmount, hfinite, h]

private theorem createProduct_usable {form : ProductForm} {db db' : Db} {u : PUnit}
    (hI : AllUsable db) (hrange : form.refused db ∨
      usableRates form.gstRate form.defaultRate form.salesDiscountRate = true)
    (h : createProduct form db = (.ok u, db')) : AllUsable db' := by
  have hrates := hrange.resolve_left (createProduct_not_refused h)
  unfold createProduct at h
  obtain ⟨_, t₁, h₁, h⟩ := Tx.bind_ok.mp h
  obtain ⟨-, rfl⟩ := Tx.raiseIf_ok.mp h₁
  obtain ⟨_, t₂, h₂, h⟩ := Tx.bind_ok.mp h
  obtain ⟨hinterval, rfl⟩ := Tx.raiseIf_ok.mp h₂
  obtain ⟨p, t₃, h₃, h⟩ := Tx.bind_ok.mp h
  obtain ⟨-, rfl⟩ := Tx.pure_ok.mp h
  push Not at hinterval
  have hrow : ∀ id, storable (form.row id) → (form.row id).usable = true :=
    fun id _ => usable_of_rates hrates hinterval.1
  exact insertProduct_usable hrow _ _ p hI h₃

/-- A pricing form without an error, on a usable product. -/
private theorem over_usable {form : PricingForm} {p : Product} (hp : p.usable = true)
    (hinf : form.defaultRate ≠ .inf false) (herror : pricingError form = none)
    (hs : storable (form.over p)) : (form.over p).usable = true := by
  obtain ⟨hgst, hrate, hdiscount⟩ := hs
  obtain ⟨hrates, hinterval⟩ := usable_iff.mp hp
  -- Each check of the source that is passed bounds one number.
  unfold pricingError at herror
  split at herror
  · exact absurd herror (by simp)
  next hlow =>
  split at herror
  · exact absurd herror (by simp)
  next hinside =>
  split at herror
  · exact absurd herror (by simp)
  next hcount =>
  split at herror
  · exact absurd herror (by simp)
  split at herror
  · exact absurd herror (by simp)
  next hpercent =>
  have hgstUsable : isPercent (form.over p).gstRate = true := by
    cases hsent : form.gstRate with
    | none =>
      have hsame : (form.over p).gstRate = p.gstRate := by simp [PricingForm.over, hsent]
      unfold usableRates at hrates
      simp only [Bool.and_eq_true] at hrates
      rw [hsame]
      exact hrates.1.1
    | some f =>
      have hnew : (form.over p).gstRate = f := by simp [PricingForm.over, hsent]
      rw [hnew] at hgst ⊢
      exact percent_of_inside hgst (by simpa [hsent] using hpercent)
  have hrateUsable : isAmount form.defaultRate = true :=
    amount_of_nonneg hrate hinf (by simpa using hlow)
  have hdiscountUsable : isPercent form.salesDiscountRate = true :=
    percent_of_inside hdiscount (by simpa using hinside)
  refine usable_of_rates ?_ ?_
  · unfold usableRates
    rw [hgstUsable, show (form.over p).defaultRate = form.defaultRate from rfl, hrateUsable,
      show (form.over p).salesDiscountRate = form.salesDiscountRate from rfl, hdiscountUsable]
    rfl
  -- The interval may be left as it is.
  · cases hsent : form.shelfVerificationInterval with
    | none =>
      simp only [PricingForm.over, hsent, Option.getD_none]
      split <;> omega
    | some n =>
      simp only [hsent, Option.any_some, decide_eq_true_eq] at hcount
      simp only [PricingForm.over, hsent, Option.getD_some]
      omega

private theorem updateProductPricing_usable {id : Nat} {form : PricingForm} {db db' : Db}
    {u : PUnit} (hI : AllUsable db) (hrange : ∀ p, db.product id = some p →
      form.defaultRate ≠ .inf false ∨ pricingError form ≠ none ∨ ¬ storable (form.over p))
    (h : updateProductPricing id form db = (.ok u, db')) : AllUsable db' := by
  unfold updateProductPricing at h
  obtain ⟨seen, t₁, h₁, h⟩ := Tx.bind_ok.mp h
  obtain ⟨rfl, rfl⟩ := Tx.reads_ok.mp h₁
  cases hfound : db.product id with
  | none =>
    rw [hfound] at h
    obtain ⟨-, rfl⟩ := Tx.pure_ok.mp h
    exact hI
  | some p =>
    rw [hfound] at h
    cases herror : pricingError form with
    | some text =>
      rw [herror] at h
      exact absurd h Tx.raise_ok
    | none =>
      rw [herror] at h
      obtain ⟨_, t₂, h₂, h⟩ := Tx.bind_ok.mp h
      obtain ⟨hs, rfl⟩ := Tx.raiseIf_ok.mp h₂
      have hp := hI p (lookup_some hfound).1
      have hinf : form.defaultRate ≠ .inf false := by
        rcases hrange p hfound with hinf | hrefused | hnan
        · exact hinf
        · exact absurd herror hrefused
        · exact absurd hnan hs
      exact updateProduct_usable (over_usable hp hinf herror (not_not.mp hs)) _ _ _ hI h

/-! ## Every step -/

private theorem runHandler_usable {rt : Runtime} {st : Settings} {now : Instant} {uuid : PyStr}
    {parts : CommandParts} {db db' : Db} {u : PUnit} (hI : AllUsable db)
    (hrange : CommandInRange rt st db parts)
    (h : runHandler rt st now uuid parts db = (.ok u, db')) : AllUsable db' := by
  unfold runHandler at h
  -- By the handler; only three of them write products.
  by_cases havailable : parts.commandType = py "TRANSFER_AVAILABLE" ∨
      parts.commandType = py "TRANSFER_INCOMING"
  · rw [if_pos havailable] at h
    unfold CommandInRange at hrange
    rw [if_pos havailable] at hrange
    rcases applyTransferAvailable_not_refused h with rfl | hfree
    · exact hI
    · exact applyTransferAvailable_usable hI (hrange.resolve_left (by simp [hfree])) h
  rw [if_neg havailable] at h
  by_cases hreceipt : parts.commandType = py "TRANSFER_RECEIPT" ∨
      parts.commandType = py "TRANSFER_RECEIPT_STATUS"
  · rw [if_pos hreceipt] at h
    exact usable_of_keeps (applyTransferReceiptCommand_keeps (fun _ _ => rfl) (fun _ _ => rfl)
      (fun _ _ => rfl) _ _ _) _ _ _ hI h
  rw [if_neg hreceipt] at h
  by_cases hreview : parts.commandType = py "RECEIPT_REVIEWED"
  · rw [if_pos hreview] at h
    exact usable_of_keeps (applyReceiptReviewCommand_keeps (fun _ _ => rfl) _ _) _ _ _ hI h
  rw [if_neg hreview] at h
  by_cases hallocated : parts.commandType = py "QR_ALLOCATED"
  · rw [if_pos hallocated] at h
    exact applyQrAllocated_usable rt st now parts.payload _ _ _ hI h
  rw [if_neg hallocated] at h
  by_cases hreplace : parts.commandType = py "QR_REPLACE"
  · rw [if_pos hreplace] at h
    exact usable_of_keeps
      (applyQrReplaceCommand_keeps (fun _ _ => rfl) (fun _ _ _ => rfl) _ _ _ _ _)
      _ _ _ hI h
  rw [if_neg hreplace] at h
  by_cases hupsert : parts.commandType = py "PRODUCT_UPSERT"
  · rw [if_pos hupsert] at h
    exact applyProductUpsert_usable rt st parts.payload _ _ _ hI h
  · rw [if_neg hupsert] at h
    exact absurd h Tx.raise_ok

/-- An action in range keeps every product usable. -/
private theorem catalogTx_usable {rt : Runtime} {a : CatalogAction} {db db' : Db} {u : PUnit}
    (hI : AllUsable db) (hrange : NumbersInRange rt db a) (h : catalogTx rt a db = (.ok u, db')) :
    AllUsable db' := by
  cases a with
  | command st now uuid command =>
    obtain ⟨row, t, hrow, h⟩ := Tx.bind_ok.mp h
    obtain ⟨-, rfl⟩ := Tx.pure_ok.mp h
    rcases applyMasterCommand_run hrow with
      rfl | ⟨parts, before, after, v, inbox, hparts, hruns, hrun, rfl⟩
    · exact hI
    · unfold NumbersInRange at hrange
      dsimp only at hrange
      rw [hparts] at hrange
      -- The handler starts from the same products; only its row is in the inbox.
      have hafter : AllUsable after := by
        refine runHandler_usable ?_ ?_ hrun
        · exact hI
        · exact hrange.resolve_right (by simp [hruns])
      exact hafter
  | create form => exact createProduct_usable hI hrange h
  | edit id form =>
    refine updateProductPricing_usable hI (fun p hp => ?_) h
    unfold NumbersInRange at hrange
    dsimp only at hrange
    rw [hp] at hrange
    exact hrange

/-! ## Events -/

/-- A value that is strict by itself, or a list of items made from stored products. An
item may carry the rate and the discount of its batch line; those are finite. -/
def BuiltFromProducts (db : Db) (v : Json) : Prop :=
  v.Strict ∨ ∃ items, v = .arr items ∧
    ∀ item ∈ items, ∃ p ∈ db.products, ∃ serial rate discount status,
    (∀ f ∈ rate, PyFloat.isFinite f = true) ∧ (∀ f ∈ discount, PyFloat.isFinite f = true) ∧
      item = .obj (networkEventItem p serial rate discount status).entries

/-- The JSON that Master gets is strict: it reads back to a value whose numbers are finite. -/
def StrictText (text : PyStr) : Prop := ∃ v, decode text = .ok v ∧ v.Strict

/-- `value or 0` of a finite number is strict. -/
private theorem orZero_strict {f : PyFloat} (h : f.isFinite = true) :
    (Json.float f.orZero).Strict := by
  unfold PyFloat.orZero
  cases f with
  | finite negative d =>
    split
    · trivial
    · trivial
  | inf negative => exact absurd h (by simp [PyFloat.isFinite])
  | nan => exact absurd h (by simp [PyFloat.isFinite])

private theorem optStr_strict (s : Option PyStr) : (optStr s).Strict := by
  cases s <;> trivial

private theorem isoOpt_strict (d : Option Date) : (isoOpt d).Strict := by
  cases d <;> trivial

private theorem finite_of_usable {p : Product} (h : p.usable = true) :
    p.gstRate.isFinite = true ∧ p.defaultRate.isFinite = true ∧
      p.salesDiscountRate.isFinite = true := by
  obtain ⟨hrates, -⟩ := usable_iff.mp h
  unfold usableRates isPercent isAmount at hrates
  simp only [Bool.and_eq_true] at hrates
  exact ⟨hrates.1.1.1.1, hrates.1.2.1, hrates.2.1.1⟩

/-- A number that replaces a finite one is finite. -/
private theorem getD_strict {given : Option PyFloat} {f : PyFloat}
    (hgiven : ∀ g ∈ given, PyFloat.isFinite g = true) (hf : f.isFinite = true) :
    (Json.float (given.getD f.orZero)).Strict := by
  cases given with
  | none => exact orZero_strict hf
  | some g =>
    have hg := hgiven g rfl
    cases g with
    | finite negative d => trivial
    | inf negative => exact absurd hg (by simp [PyFloat.isFinite])
    | nan => exact absurd hg (by simp [PyFloat.isFinite])

/-- The item of a usable product. -/
private theorem networkEventItem_strict {p : Product} (h : p.usable = true) (serial : Serial)
    {rate discount : Option PyFloat} (hrateGiven : ∀ f ∈ rate, PyFloat.isFinite f = true)
    (hdiscountGiven : ∀ f ∈ discount, PyFloat.isFinite f = true) (status : Option SerialStatus) :
    (Json.obj (networkEventItem p serial rate discount status).entries).Strict := by
  obtain ⟨hgst, hrate, hdiscount⟩ := finite_of_usable h
  exact ⟨trivial, trivial, trivial, trivial, trivial, orZero_strict hgst,
    getD_strict hdiscountGiven hdiscount, trivial, getD_strict hrateGiven hrate, trivial,
    optStr_strict _, isoOpt_strict _, isoOpt_strict _, optStr_strict _, trivial⟩

private theorem strict_of_built {db : Db} (hI : AllUsable db) {v : Json}
    (h : BuiltFromProducts db v) : v.Strict := by
  rcases h with hstrict | ⟨items, rfl, hitems⟩
  · exact hstrict
  · refine Json.allStrict_iff.mpr fun item hitem => ?_
    obtain ⟨p, hp, serial, rate, discount, status, hrate, hdiscount, rfl⟩ := hitems item hitem
    exact networkEventItem_strict (hI p hp) serial hrate hdiscount status

/-- A nullable float that is finite where it is given. -/
private theorem optFloat_strict {x : Option PyFloat} (h : ∀ f ∈ x, PyFloat.isFinite f = true) :
    (optFloat x).Strict := by
  cases x with
  | none => trivial
  | some f =>
    have hf := h f rfl
    cases f with
    | finite negative d => trivial
    | inf negative => exact absurd hf (by simp [PyFloat.isFinite])
    | nan => exact absurd hf (by simp [PyFloat.isFinite])

/-- The lines of a batch are of stored products, and the rates that the lines and the
batch carry are finite. -/
structure FiniteLines (db : Db) (batch : Batch) (items : List LoadedItem) : Prop where
  stored : ∀ l ∈ items, l.product ∈ db.products
  rate : ∀ l ∈ items, ∀ f ∈ l.item.rate, PyFloat.isFinite f = true
  discount : ∀ l ∈ items, ∀ f ∈ l.item.salesDiscountRate, PyFloat.isFinite f = true
  gst : ∀ x ∈ [batch.gstCgstRate, batch.gstSgstRate, batch.gstIgstRate], ∀ f ∈ x,
    PyFloat.isFinite f = true

/-- The payload of a submitted batch is made from stored products. -/
private theorem batchPayload_built {db : Db} {batch : Batch} {items : List LoadedItem}
    (h : FiniteLines db batch items) (user : User) :
    ∀ e ∈ (batchPayload user batch (batchEventItems items)).entries, BuiltFromProducts db e.2 := by
  -- The lines are items of stored products; everything else is text or a rate of the batch.
  have hitems : BuiltFromProducts db
      (.arr ((batchEventItems items).map fun item => .obj item.entries)) := by
    refine Or.inr ⟨_, rfl, ?_⟩
    intro v hv
    obtain ⟨item, hitem, rfl⟩ := List.mem_map.mp hv
    obtain ⟨l, hl, rfl⟩ := List.mem_map.mp hitem
    have hmem : l ∈ items := (List.perm_insertionSort _ items).mem_iff.mp hl
    exact ⟨l.product, h.stored l hmem, l.serial, l.item.rate, l.item.salesDiscountRate, none,
      h.rate l hmem, h.discount l hmem, rfl⟩
  have htext : ∀ s : Option PyStr, BuiltFromProducts db (optStr s) :=
    fun s => Or.inl (optStr_strict s)
  have hgst : ∀ x ∈ [batch.gstCgstRate, batch.gstSgstRate, batch.gstIgstRate],
      BuiltFromProducts db (optFloat x) := fun x hx => Or.inl (optFloat_strict (h.gst x hx))
  intro e he
  simp only [batchPayload, List.mem_cons, List.not_mem_nil, or_false] at he
  rcases he with rfl | rfl | rfl | rfl | rfl | rfl | rfl | rfl | rfl | rfl | rfl | rfl | rfl
  · exact Or.inl trivial
  · exact Or.inl trivial
  · exact hitems
  · exact htext _
  · exact htext _
  · exact htext _
  · exact htext _
  · exact htext _
  · exact htext _
  · exact hgst _ (by simp)
  · exact hgst _ (by simp)
  · exact hgst _ (by simp)
  · exact htext _

/-- An event whose payload is made from stored products, as the text that is sent. -/
private theorem frozenEventJson_strict {db : Db} (hI : AllUsable db) {payload : JsonDict}
    (hbuilt : ∀ e ∈ payload.entries, BuiltFromProducts db e.2)
    {eventId eventType aggregateId : PyStr} {sequence : Nat} {occurredAt : Instant}
    {schemaVersion : Int} {text : PyStr}
    (h : frozenEventJson eventId sequence eventType aggregateId payload.entries occurredAt
      schemaVersion
      = .ok text) : StrictText text := by
  have hpayload : Json.MembersStrict payload.entries :=
    Json.membersStrict_iff.mpr fun e he => strict_of_built hI (hbuilt e he)
  have hfields : Json.MembersStrict
      (envelopeFields eventId sequence eventType occurredAt schemaVersion) :=
    ⟨trivial, trivial, trivial, trivial, trivial, trivial⟩
  have hreference := (hpayload.dictUpdate hfields).dictSetDefault (k := py "reference")
    (v := .str aggregateId) trivial
  have hactor := hreference.dictSetDefault (k := py "actor") (v := .null) trivial
  have hevent := hactor.dictSetDefault (k := py "items") (v := .arr []) trivial
  have hwf : (Json.obj
      (frozenEvent eventId sequence eventType aggregateId payload.entries occurredAt
      schemaVersion)).WF := frozenEvent_wf payload.wf
  refine ⟨_, decode_dumps (requestBody_wf hwf) (canonicalJson_ok h), ?_⟩
  exact Json.Strict.sortKeys ⟨⟨hevent, trivial⟩, trivial⟩

/-- In every state of a run whose steps are in range every product is usable, and every
event made from stored products is sent as strict JSON; the event of a submitted batch
is such an event. -/
theorem product_numbers_usable (rt : Runtime) (db : Db) (hstart : AllUsable db)
    (as : List CatalogAction) (hrange : Guarded (catalogMachine rt) (NumbersInRange rt) db as)
    (db' : Db) (h : exec (catalogMachine rt) db as = some db') :
    AllUsable db' ∧
      (∀ (payload : JsonDict) (eventId : PyStr) (sequence : Nat) (eventType aggregateId : PyStr)
        (occurredAt : Instant) (schemaVersion : Int) (text : PyStr),
        (∀ e ∈ payload.entries, BuiltFromProducts db' e.2) →
          frozenEventJson eventId sequence eventType aggregateId payload.entries occurredAt
            schemaVersion = .ok text →
          StrictText text) ∧
      ∀ (code : PyStr) (s : Submitter) (batch : Batch) (items : List LoadedItem) (eventId : PyStr)
        (sequence : Nat) (text : PyStr), FiniteLines db' batch items →
          frozenEventJson eventId sequence (batchSubmittedRequest code s batch items).eventType
            (batchSubmittedRequest code s batch items).aggregateId
            (batchSubmittedRequest code s batch items).payload.entries s.now
            (batchSubmittedRequest code s batch items).schemaVersion = .ok text →
          StrictText text := by
  have husable : AllUsable db' := by
    refine guarded_invariant ?_ hstart hrange h
    intro s a s' hI ha hstep
    obtain rfl := Option.some.inj hstep
    rcases Tx.atomically_cases (catalogTx rt a) s with ⟨u, t, hx, hcommit⟩ | ⟨e, t, hx, hback⟩
    · rw [hcommit]
      exact catalogTx_usable hI ha hx
    · rw [hback]
      exact hI
  refine ⟨husable, ?_, ?_⟩
  · exact fun payload _ _ _ _ _ _ _ hbuilt htext => frozenEventJson_strict husable hbuilt htext
  · intro code s batch items eventId sequence text hlines htext
    exact frozenEventJson_strict husable (batchPayload_built hlines s.user) htext

/-! ## Witnesses -/

/-- The product form with a default rate. -/
def teaForm (defaultRate : PyFloat) : ProductForm :=
  { productCode := py "tea", productName := py "Tea", nickname := [], category := [], brand := [],
    hsn := py "0902", gstRate := .finite false (Dec.ofDigits 5 0), unit := py "Pcs",
    defaultRate := defaultRate, salesDiscountRate := .zero, shelfVerificationInterval := 1,
    tallyStockItemName := [], alternateTallyStockItemName := [] }

/-- A pricing form with a default rate only. -/
def teaPricing (defaultRate : PyFloat) : PricingForm :=
  ⟨defaultRate, .zero, none, none, none, none, none, none, none, none⟩

/-- A form, a new price, an allocation and a manifest, all in range. -/
def inRangeRun : List CatalogAction :=
  [.create (teaForm .zero), .edit 1 (teaPricing (.finite false (Dec.ofDigits 1250 (-2)))),
    allocateOne (py "C-1") (py "TEA"), transferOne (py "C-2") (py "milk")]

/-- The guarantee at a run in range. -/
theorem product_numbers_usable_home :
    ∃ db', exec (catalogMachine .plain) .empty inRangeRun = some db' ∧
      db'.codes = [py "TEA", py "MILK"] ∧ AllUsable db' := by
  have hrun : (exec (catalogMachine .plain) .empty inRangeRun).map Db.codes
      = some [py "TEA", py "MILK"] := by
    decide +kernel
  obtain ⟨db', hdb, hcodes⟩ := Option.map_eq_some_iff.mp hrun
  have hrange : Guarded (catalogMachine .plain) (NumbersInRange .plain) .empty inRangeRun := by
    decide +kernel
  have hstart : AllUsable .empty := by decide
  exact ⟨db', hdb, hcodes,
    (product_numbers_usable .plain .empty hstart inRangeRun hrange db' hdb).1⟩

/-- A serial of the first product. -/
def teaSerial : Serial :=
  { id := 1, serialNumber := py "TEA-1", productId := 1, status := .inStock, active := true,
    createdAt := 0, replacedById := none, productBatchNumber := none, mfgDate := none,
    expiryDate := none, warehouse := none, warehouseLevel := .companyWarehouse, locationId := none }

/-- The stock event of one serial of a product. -/
def teaEvent (p : Product) : Except PyError PyStr :=
  frozenEventJson (py "E-1") 1 (py "STOCK_SNAPSHOT") (py "HOME:INITIAL-INVENTORY:PART-1")
    (initialInventoryPayload (py "HOME:INITIAL-INVENTORY:PART-1") none
      [networkEventItem p teaSerial none none none]).entries 0 1

/-- A product form whose default rate is `inf` is stored, and the event that embeds the
product is sent with the token `Infinity`. -/
theorem infinite_rate_stored :
    ∃ db' p, exec (catalogMachine .plain) .empty [.create (teaForm (.inf false))] = some db' ∧
      db'.products = [p] ∧ p.defaultRate = .inf false ∧ ¬ AllUsable db' ∧
      ∃ text, teaEvent p = .ok text ∧ ¬ StrictText text := by
  have hrun : exec (catalogMachine .plain) .empty [.create (teaForm (.inf false))]
      = some { Db.empty with products := [(teaForm (.inf false)).row 1] } := by
    decide +kernel
  have htext : (teaEvent ((teaForm (.inf false)).row 1)).toOption.map
      (fun text => (decode text).toOption.map fun v => decide v.Strict) = some (some false) := by
    decide +kernel
  refine ⟨_, _, hrun, rfl, rfl, by decide, ?_⟩
  cases hevent : teaEvent ((teaForm (.inf false)).row 1) with
  | error e =>
    rw [hevent] at htext
    exact absurd htext (by simp [Except.toOption])
  | ok text =>
    refine ⟨text, rfl, ?_⟩
    rintro ⟨v, hv, hstrict⟩
    rw [hevent] at htext
    simp [Except.toOption, hv, hstrict] at htext

end SetuoraLite
