import SetuoraLite.Catalog.Products

/-!
# Product codes

Four writers create products, and each looks for the product in its own way: the
product form and an incoming transfer upper-case the code with Python's `upper` and
compare it exactly; an allocation and a product command keep the code as Master
spells it and compare SQLite's `upper` of the stored code with Python's of the new
one. The lookups agree as long as no code is stored in two spellings and every
stored code is one whose two upper cases agree: `CodesFound`. `CodeAgrees` says when
a step cannot break this.
-/

namespace SetuoraLite

open Lib

/-! ## What the catalogue should be -/

/-- Codes are unique ignoring case, and every spelling of a stored code finds its product. -/
structure CodesFound (db : Db) : Prop where
  distinct : (db.products.map fun p => upper p.productCode).Nodup
  found : ∀ p ∈ db.products, ∀ code, upper code = upper p.productCode →
    matchingProducts db code = [p]

/-- No product is stored under another spelling of the code. -/
def NoOtherSpelling (db : Db) (code : PyStr) : Prop :=
  ∀ p ∈ db.products, upper p.productCode = upper code → p.productCode = code

instance (db : Db) (code : PyStr) : Decidable (NoOtherSpelling db code) := by
  unfold NoOtherSpelling
  exact inferInstance

/-- The product code of a manifest item. -/
def manifestProductCode (rt : Runtime) : Json → Option PyStr
  | .obj item =>
    match firstTruthy [getItem item (py "product"), .obj item] with
    | .obj product => some (snapshotCode rt product)
    | _ => none
  | _ => none

/-- The product codes that a transfer command brings. -/
def manifestProductCodes (rt : Runtime) (payload : List (PyStr × Json)) : List PyStr :=
  match unwrapTransferPayload payload with
  | .ok (_, manifest) => manifest.filterMap (manifestProductCode rt)
  | .error _ => []

/-- When a command keeps codes unique and found: it is refused before it reaches a
product, or an allocation or product command names a product that is found, or spells
its code so that the two upper cases agree; a transfer brings no code that is stored
in another spelling. -/
def CommandAgrees (rt : Runtime) (st : Settings) (db : Db) (parts : CommandParts) : Prop :=
  if parts.commandType = py "TRANSFER_AVAILABLE" ∨ parts.commandType = py "TRANSFER_INCOMING" then
    (∀ code ∈ manifestProductCodes rt parts.payload, NoOtherSpelling db code) ∨
      transferRefused rt st db parts.payload = true
  else if parts.commandType = py "QR_ALLOCATED" then
    (∀ code ∈ commandProductCode parts.payload,
      matchingProducts db code ≠ [] ∨ asciiUpper code = upper code) ∨
      allocationRefused rt st db parts.payload = true
  else if parts.commandType = py "PRODUCT_UPSERT" then
    (∀ code ∈ commandProductCode parts.payload,
      matchingProducts db code ≠ [] ∨ asciiUpper code = upper code) ∨
      upsertRefused rt st parts.payload = true
  else True

instance (rt : Runtime) (st : Settings) (db : Db) (parts : CommandParts) :
    Decidable (CommandAgrees rt st db parts) := by
  unfold CommandAgrees
  exact inferInstance

/-- When an action keeps codes unique and found. -/
def CodeAgrees (rt : Runtime) (db : Db) : CatalogAction → Prop
  | .command st _ _ command =>
    match commandParts rt command with
    | .ok parts => CommandAgrees rt st db parts ∨ commandIdle db parts = true
    | .error _ => True
  | .create form => NoOtherSpelling db (normalizeSerial form.productCode) ∨ form.refused db
  | .edit _ _ => True

instance (rt : Runtime) (db : Db) : (a : CatalogAction) → Decidable (CodeAgrees rt db a)
  | .command st _ _ command =>
    decidableParts (fun parts => CommandAgrees rt st db parts ∨ commandIdle db parts = true)
      (commandParts rt command)
  | .create form => inferInstanceAs (Decidable (_ ∨ form.refused db))
  | .edit _ _ => inferInstanceAs (Decidable True)

/-! ## The invariant on codes -/

/-- Codes are unique ignoring case, and their two upper cases agree. -/
structure CodesPlain (codes : List PyStr) : Prop where
  distinct : (codes.map upper).Nodup
  plain : ∀ c ∈ codes, asciiUpper c = upper c

/-- The property is a property of the codes alone. -/
theorem codesFound_iff {db : Db} : CodesFound db ↔ CodesPlain db.codes := by
  constructor
  · intro h
    refine ⟨?_, ?_⟩
    · unfold Db.codes
      rw [List.map_map]
      exact h.distinct
    · intro c hc
      obtain ⟨p, hp, rfl⟩ := List.mem_map.mp hc
      -- The product is found under its own code.
      have hfound := h.found p hp p.productCode rfl
      have hmem : p ∈ matchingProducts db p.productCode := by
        rw [hfound]
        exact List.mem_singleton_self p
      simpa using (List.mem_filter.mp (List.mem_of_mem_take hmem)).2
  · intro h
    have hdistinct : (db.products.map fun p => upper p.productCode).Nodup := by
      have := h.distinct
      unfold Db.codes at this
      rwa [List.map_map] at this
    refine ⟨hdistinct, ?_⟩
    intro p hp code hcode
    unfold matchingProducts
    have hplain : ∀ q ∈ db.products, asciiUpper q.productCode = upper q.productCode :=
      fun q hq => h.plain q.productCode (List.mem_map_of_mem hq)
    have hfilter : (db.products.filter fun q => asciiUpper q.productCode = upper code)
        = db.products.filter fun q => upper q.productCode = upper p.productCode := by
      apply List.filter_congr
      intro q hq
      rw [hplain q hq, hcode]
    have hone := filter_key_eq hdistinct hp
    rw [hfilter, hone]
    rfl

/-- A new code that agrees with itself and differs from the others in every case. -/
theorem CodesPlain.snoc {codes : List PyStr} (h : CodesPlain codes) {code : PyStr}
    (hplain : asciiUpper code = upper code) (hnew : ∀ c ∈ codes, upper c ≠ upper code) :
    CodesPlain (codes ++ [code]) := by
  constructor
  · rw [List.map_append, List.nodup_append]
    refine ⟨h.distinct, by simp, ?_⟩
    intro a ha b hb
    obtain ⟨c, hc, rfl⟩ := List.mem_map.mp ha
    obtain rfl : b = upper code := by simpa using hb
    exact hnew c hc
  · intro c hc
    rcases List.mem_append.mp hc with hold | hlast
    · exact h.plain c hold
    · obtain rfl := List.mem_singleton.mp hlast
      exact hplain

/-! ## What the writers do to the codes -/

/-- An update writes no code. -/
private theorem updateProduct_codes (p : Product) :
    Tx.Keeps Db.codes (updateProduct p) := by
  refine .bind (.raiseIf _ _) fun _ => .modify fun db => ?_
  exact map_modifyRow fun _ _ _ => rfl

/-- A product that is inserted. -/
private theorem insertProduct_codes {row : Nat → Product} {code : PyStr}
    (hrow : ∀ id, (row id).productCode = code) {db db' : Db} {p : Product}
    (h : insertProduct row db = (.ok p, db')) : db'.codes = db.codes ++ [code] ∧
      code ∉ db.codes := by
  obtain ⟨hp, hfresh, rfl⟩ := insertProduct_ok h
  have hcode : p.productCode = code := by rw [hp, hrow]
  constructor
  · simp [Db.codes, hcode]
  · intro hmem
    obtain ⟨q, hq, he⟩ := List.mem_map.mp hmem
    exact hfresh q hq (he.trans hcode.symm)

/-- No stored code has the upper case of one that is not found. -/
private theorem new_of_not_found {db : Db} (h : CodesPlain db.codes) {code : PyStr}
    (hnone : matchingProducts db code = []) : ∀ c ∈ db.codes, upper c ≠ upper code := by
  intro c hc he
  obtain ⟨p, hp, rfl⟩ := List.mem_map.mp hc
  have hfound := (codesFound_iff.mpr h).found p hp code he.symm
  rw [hnone] at hfound
  exact absurd hfound (by simp)

/-- A lookup that ends in an insert. -/
private theorem insert_not_found {row : Nat → Product} {code : PyStr}
    (hrow : ∀ id, (row id).productCode = code) {db db' : Db} {p : Product}
    (hI : CodesPlain db.codes) (hnone : matchingProducts db code = [])
    (hagree : matchingProducts db code ≠ [] ∨ asciiUpper code = upper code)
    (h : insertProduct row db = (.ok p, db')) : CodesPlain db'.codes := by
  obtain ⟨hcodes, -⟩ := insertProduct_codes hrow h
  rw [hcodes]
  rcases hagree with hne | hplain
  · exact absurd hnone hne
  · exact hI.snoc hplain (new_of_not_found hI hnone)

/-- What does not write products keeps the codes. -/
private theorem codes_of_keeps {α : Type} {x : Tx α} (hx : Tx.Keeps Db.codes x) {db db' : Db}
    {a : α} (h : x db = (.ok a, db')) : db'.codes = db.codes := by
  have hkept := hx db
  rwa [h] at hkept

/-- The product of an allocation: it is found, or new and plain. -/
private theorem allocatedProduct_codes {rt : Runtime} {a : AllocatedProduct} {db db' : Db}
    {p : Product} (hI : CodesPlain db.codes)
    (hagree : matchingProducts db a.productCode ≠ [] ∨
      asciiUpper a.productCode = upper a.productCode)
    (h : allocatedProduct rt a db = (.ok p, db')) : CodesPlain db'.codes := by
  unfold allocatedProduct at h
  obtain ⟨seen, t, hread, h⟩ := Tx.bind_ok.mp h
  obtain ⟨rfl, rfl⟩ := Tx.reads_ok.mp hread
  cases hfound : matchingProducts db a.productCode with
  | nil =>
    rw [hfound] at h
    have hrow : ∀ id, (a.row id).productCode = a.productCode := fun _ => rfl
    exact insert_not_found hrow hI hfound hagree h
  | cons q rest =>
    rw [hfound] at h
    cases rest with
    | nil =>
      have hkept : Tx.Keeps Db.codes (do
          Tx.lift (checkAllocated rt q a)
          let filled :=
            if q.tallyStockItemName = [] then { q with tallyStockItemName := a.tallyName } else q
          updateProduct filled
          pure filled : Tx Product) :=
        .bind (.lift _) fun _ => .bind (updateProduct_codes _) fun _ => .pure _
      rw [codes_of_keeps hkept h]
      exact hI
    | cons q' rest => exact absurd h Tx.raise_ok

/-- An allocation keeps the codes plain, by the condition on its code. -/
private theorem applyQrAllocated_codes {rt : Runtime} {st : Settings} {now : Instant}
    {payload : List (PyStr × Json)} {db db' : Db} {u : PUnit} (hI : CodesPlain db.codes)
    (hagree : ∀ code ∈ commandProductCode payload,
      matchingProducts db code ≠ [] ∨ asciiUpper code = upper code)
    (h : applyQrAllocatedCommand rt st now payload db = (.ok u, db')) : CodesPlain db'.codes := by
  unfold applyQrAllocatedCommand at h
  obtain ⟨_, t₁, h₁, h⟩ := Tx.bind_ok.mp h
  obtain ⟨-, rfl⟩ := Tx.lift_ok.mp h₁
  obtain ⟨product, t₂, h₂, h⟩ := Tx.bind_ok.mp h
  obtain ⟨hproduct, rfl⟩ := Tx.lift_ok.mp h₂
  obtain ⟨serials, t₃, h₃, h⟩ := Tx.bind_ok.mp h
  obtain ⟨-, rfl⟩ := Tx.lift_ok.mp h₃
  obtain ⟨seen, t₄, h₄, h⟩ := Tx.bind_ok.mp h
  obtain ⟨-, rfl⟩ := Tx.reads_ok.mp h₄
  obtain ⟨_, t₅, h₅, h⟩ := Tx.bind_ok.mp h
  obtain ⟨-, rfl⟩ := Tx.lift_ok.mp h₅
  obtain ⟨stored, t₆, h₆, h⟩ := Tx.bind_ok.mp h
  have hproducts := allocatedProduct_codes hI (hagree _ (parseAllocatedProduct_ok hproduct).1) h₆
  -- The serials of the allocation do not touch products.
  have hkept : Tx.Keeps Db.codes (Tx.each (fun (s : ParsedSerial) => do
      let _ ← insertSerial (s.row stored.id now)
      pure ⟨⟩) serials : Tx PUnit) :=
    .each (fun _ => .bind (insertSerial_keeps (fun _ _ => rfl) _) fun _ => .pure _) _
  rw [codes_of_keeps hkept h]
  exact hproducts

private theorem applyProductUpsert_codes {rt : Runtime} {st : Settings}
    {payload : List (PyStr × Json)} {db db' : Db} {u : PUnit} (hI : CodesPlain db.codes)
    (hagree : ∀ code ∈ commandProductCode payload,
      matchingProducts db code ≠ [] ∨ asciiUpper code = upper code)
    (h : applyProductUpsertCommand rt st payload db = (.ok u, db')) : CodesPlain db'.codes := by
  unfold applyProductUpsertCommand at h
  obtain ⟨_, t₁, h₁, h⟩ := Tx.bind_ok.mp h
  obtain ⟨-, rfl⟩ := Tx.lift_ok.mp h₁
  obtain ⟨product, t₂, h₂, h⟩ := Tx.bind_ok.mp h
  obtain ⟨hproduct, rfl⟩ := Tx.lift_ok.mp h₂
  have hcode := hagree _ (parseUpsert_ok hproduct).1
  unfold upsertProduct at h
  obtain ⟨seen, t₃, h₃, h⟩ := Tx.bind_ok.mp h
  obtain ⟨rfl, rfl⟩ := Tx.reads_ok.mp h₃
  cases hfound : matchingProducts db product.productCode with
  | nil =>
    rw [hfound] at h
    obtain ⟨_, t₄, h₄, h⟩ := Tx.bind_ok.mp h
    obtain ⟨-, rfl⟩ := Tx.pure_ok.mp h
    have hrow : ∀ id, (product.row id).productCode = product.productCode := fun _ => rfl
    exact insert_not_found hrow hI hfound hcode h₄
  | cons q rest =>
    rw [hfound] at h
    cases rest with
    | nil =>
      rw [codes_of_keeps (updateProduct_codes _) h]
      exact hI
    | cons q' rest => exact absurd h Tx.raise_ok

/-! ## Transfers and the product form -/

/-- A code that is an upper case itself, and stored in no other spelling. -/
private theorem CodesPlain.snoc_upper {codes : List PyStr} (h : CodesPlain codes) {s : PyStr}
    (hagree : ∀ c ∈ codes, upper c = upper s → c = upper s) (hnew : upper s ∉ codes) :
    CodesPlain (codes ++ [upper s]) := by
  refine h.snoc ?_ ?_
  · rw [asciiUpper_upper, upper_upper]
  · intro c hc he
    rw [upper_upper] at he
    exact hnew (hagree c hc he ▸ hc)

/-- The invariant along a manifest: codes are plain, and none of the codes to come is
stored in another spelling. -/
private def ManifestReady (codes : List PyStr) (db : Db) : Prop :=
  CodesPlain db.codes ∧ ∀ code ∈ codes, ∀ c ∈ db.codes, upper c = upper code → c = code

private theorem manifestReady_of_keeps {α : Type} {x : Tx α} (hx : Tx.Keeps Db.codes x)
    (codes : List PyStr) : Tx.Preserves (ManifestReady codes) x := by
  refine .of_keeps hx fun s t he h => ?_
  unfold ManifestReady
  rw [he]
  exact h

/-- The product of a manifest item, whose code is one of the codes to come. -/
private theorem materializeProduct_codes {rt : Runtime} {snapshot : List (PyStr × Json)}
    {codes : List PyStr} (hmem : snapshotCode rt snapshot ∈ codes)
    (hupper : ∀ code ∈ codes, ∃ s, code = upper s) :
    Tx.Preserves (ManifestReady codes) (materializeProduct rt snapshot) := by
  unfold materializeProduct
  refine .bind (.raiseIf _ _) fun _ => .bind_reads ?_
  intro db db' p hI h
  cases hfound : lookup (·.productCode) (snapshotCode rt snapshot) db.products with
  | some found =>
    rw [hfound] at h
    exact Tx.Preserves.bind (.lift _) (fun _ => .pure _) db db' p hI h
  | none =>
    rw [hfound] at h
    obtain ⟨row, t, hlift, h⟩ := Tx.bind_ok.mp h
    obtain ⟨hrow, rfl⟩ := Tx.lift_ok.mp hlift
    have hcode : ∀ id, (row id).productCode = snapshotCode rt snapshot := by
      unfold snapshotProduct at hrow
      obtain ⟨_, -, hrow⟩ := except_bind_ok.mp hrow
      obtain ⟨_, -, hrow⟩ := except_bind_ok.mp hrow
      obtain ⟨_, -, hrow⟩ := except_bind_ok.mp hrow
      obtain ⟨_, -, hrow⟩ := except_bind_ok.mp hrow
      obtain ⟨_, -, hrow⟩ := except_bind_ok.mp hrow
      obtain ⟨_, -, hrow⟩ := except_bind_ok.mp hrow
      obtain ⟨_, -, hrow⟩ := except_bind_ok.mp hrow
      obtain rfl := Except.ok.inj hrow
      exact fun _ => rfl
    obtain ⟨hcodes, hnew⟩ := insertProduct_codes hcode h
    obtain ⟨s, hs⟩ := hupper _ hmem
    obtain ⟨hplain, hready⟩ := hI
    unfold ManifestReady
    rw [hcodes]
    refine ⟨?_, ?_⟩
    · have hother := hready _ hmem
      rw [hs] at hnew hother ⊢
      refine hplain.snoc_upper (fun c hc he => hother c hc ?_) hnew
      rw [upper_upper, he]
    · intro code hin c hc he
      rcases List.mem_append.mp hc with hold | hlast
      · exact hready code hin c hold he
      · -- Two codes to come are upper cases, so equal ignoring case means equal.
        obtain rfl := List.mem_singleton.mp hlast
        obtain ⟨s', rfl⟩ := hupper code hin
        rw [hs, upper_upper, upper_upper] at he
        rw [hs, he]

/-- The code of a parsed item is the one that its manifest item brings. -/
private theorem parseManifestItem_code {rt : Runtime} {seen : List PyStr} {item : Json}
    {parsed : ManifestItem} (h : parseManifestItem rt seen item = .ok parsed) :
    manifestProductCode rt item = some (snapshotCode rt parsed.product) := by
  unfold parseManifestItem at h
  unfold manifestProductCode
  cases item with
  | obj item =>
    dsimp only at h ⊢
    split at h
    next product serial hproduct hserial =>
      rw [hproduct]
      split at h
      · exact absurd h (by simp)
      · split at h
        · exact absurd h (by simp)
        · rw [← Except.ok.inj h]
    next => exact absurd h (by simp)
  | _ => exact absurd h (by simp)

private theorem manifestProductCode_upper {rt : Runtime} {item : Json} {code : PyStr}
    (h : manifestProductCode rt item = some code) : ∃ s, code = upper s := by
  unfold manifestProductCode at h
  split at h
  · split at h
    · exact ⟨_, (Option.some.inj h).symm⟩
    · exact absurd h (by simp)
  · exact absurd h (by simp)

/-- The manifest loop, for items whose codes are among the codes to come. -/
private theorem receiveManifest_codes {rt : Runtime} {now : Instant} {transferId : Nat}
    {codes : List PyStr} (hupper : ∀ code ∈ codes, ∃ s, code = upper s) {items : List Json}
    (hitems : ∀ item ∈ items, ∀ code ∈ manifestProductCode rt item, code ∈ codes) :
    ∀ seen, Tx.Preserves (ManifestReady codes) (receiveManifest rt now transferId seen items) := by
  induction items with
  | nil => exact fun _ => .pure _
  | cons item items ih =>
    intro seen db db' u hI h
    unfold receiveManifest at h
    obtain ⟨parsed, t, hlift, h⟩ := Tx.bind_ok.mp h
    obtain ⟨hparsed, rfl⟩ := Tx.lift_ok.mp hlift
    have hmem : snapshotCode rt parsed.product ∈ codes :=
      hitems item List.mem_cons_self _ (parseManifestItem_code hparsed)
    have hitem : Tx.Preserves (ManifestReady codes)
        (receiveManifestItem rt now transferId parsed) :=
      .bind (materializeProduct_codes hmem hupper) fun _ =>
        .bind (manifestReady_of_keeps (incomingSerial_keeps (fun _ _ => rfl) _ _ _ _ _) codes)
          fun _ =>
          .bind (manifestReady_of_keeps (insertTransferItem_keeps (fun _ _ => rfl) _) codes)
            fun _ =>
            .pure _
    have hrest := ih (fun item' hmem' => hitems item' (List.mem_cons_of_mem item hmem'))
    exact Tx.Preserves.bind hitem (fun _ => hrest _) db db' u hI h

private theorem applyTransferAvailable_codes {rt : Runtime} {st : Settings} {now : Instant}
    {payload : List (PyStr × Json)} {db db' : Db} {u : PUnit} (hI : CodesPlain db.codes)
    (hagree : ∀ code ∈ manifestProductCodes rt payload, NoOtherSpelling db code)
    (h : applyTransferAvailableCommand rt st now payload db = (.ok u, db')) :
    CodesPlain db'.codes := by
  unfold applyTransferAvailableCommand at h
  obtain ⟨⟨data, manifest⟩, t, hlift, h⟩ := Tx.bind_ok.mp h
  obtain ⟨hpayload, rfl⟩ := Tx.lift_ok.mp hlift
  have hcodes : manifestProductCodes rt payload = manifest.filterMap (manifestProductCode rt) := by
    unfold manifestProductCodes
    -- The codes of the manifest are those of its lines; each is upper case, so the lookup of the
    -- next line finds what this one inserted.
    rw [hpayload]
  have hready : ManifestReady (manifestProductCodes rt payload) db := by
    refine ⟨hI, fun code hin c hc he => ?_⟩
    obtain ⟨p, hp, rfl⟩ := List.mem_map.mp hc
    exact hagree code hin p hp he
  have hupper : ∀ code ∈ manifestProductCodes rt payload, ∃ s, code = upper s := by
    intro code hin
    rw [hcodes] at hin
    obtain ⟨item, -, hitem⟩ := List.mem_filterMap.mp hin
    exact manifestProductCode_upper hitem
  have hitems : ∀ item ∈ manifest, ∀ code ∈ manifestProductCode rt item,
      code ∈ manifestProductCodes rt payload := by
    intro item hitem code hcode
    rw [hcodes]
    exact List.mem_filterMap.mpr ⟨item, hitem, hcode⟩
  refine (Tx.Preserves.bind (.raiseIf _ _) (fun _ => .bind (.raiseIf _ _) fun _ => .bind_reads ?_)
    db db' u hready h).1
  intro s s' v hs hrun
  cases hfound : s.transferNumbered (transferUuidOf rt data payload) with
  | some existing =>
    rw [hfound] at hrun
    obtain ⟨-, rfl⟩ := Tx.raiseIf_ok.mp hrun
    exact hs
  | none =>
    rw [hfound] at hrun
    -- A known transfer ends the command; a new one is filled line by line.
    exact Tx.Preserves.bind (.lift _) (fun incoming =>
      .bind (manifestReady_of_keeps (insertTransfer_keeps (fun _ _ => rfl) _) _) fun transfer =>
        receiveManifest_codes hupper hitems []) s s' v hs hrun

private theorem createProduct_codes {form : ProductForm} {db db' : Db} {u : PUnit}
    (hI : CodesPlain db.codes) (hagree : NoOtherSpelling db (normalizeSerial form.productCode))
    (h : createProduct form db = (.ok u, db')) : CodesPlain db'.codes := by
  unfold createProduct at h
  obtain ⟨_, t₁, h₁, h⟩ := Tx.bind_ok.mp h
  obtain ⟨-, rfl⟩ := Tx.raiseIf_ok.mp h₁
  obtain ⟨_, t₂, h₂, h⟩ := Tx.bind_ok.mp h
  obtain ⟨-, rfl⟩ := Tx.raiseIf_ok.mp h₂
  obtain ⟨p, t₃, h₃, h⟩ := Tx.bind_ok.mp h
  obtain ⟨-, rfl⟩ := Tx.pure_ok.mp h
  have hrow : ∀ id, (form.row id).productCode = normalizeSerial form.productCode := fun _ => rfl
  obtain ⟨hcodes, hnew⟩ := insertProduct_codes hrow h₃
  unfold normalizeSerial at hagree hcodes hnew
  rw [hcodes]
  refine hI.snoc_upper ?_ hnew
  intro c hc he
  obtain ⟨q, hq, rfl⟩ := List.mem_map.mp hc
  refine hagree q hq ?_
  rw [upper_upper, he]

private theorem updateProductPricing_codes (id : Nat) (form : PricingForm) :
    Tx.Keeps Db.codes (updateProductPricing id form) := by
  refine .bind (.reads _) fun db => ?_
  split
  · exact .pure _
  · split
    · exact .raise _
    · exact .bind (.raiseIf _ _) fun _ => updateProduct_codes _

/-! ## Every step -/

/-- A command that agrees keeps the codes plain. -/
private theorem runHandler_codes {rt : Runtime} {st : Settings} {now : Instant} {uuid : PyStr}
    {parts : CommandParts} {db db' : Db} {u : PUnit} (hI : CodesPlain db.codes)
    (hagree : CommandAgrees rt st db parts)
    (h : runHandler rt st now uuid parts db = (.ok u, db')) : CodesPlain db'.codes := by
  unfold runHandler at h
  unfold CommandAgrees at hagree
  -- By the handler, in the order of the source's checks.
  by_cases havailable : parts.commandType = py "TRANSFER_AVAILABLE" ∨
      parts.commandType = py "TRANSFER_INCOMING"
  · rw [if_pos havailable] at h hagree
    rcases applyTransferAvailable_not_refused h with rfl | hfree
    · exact hI
    · exact applyTransferAvailable_codes hI (hagree.resolve_right (by simp [hfree])) h
  -- A receipt of a transfer and its review write no product.
  rw [if_neg havailable] at h hagree
  by_cases hreceipt : parts.commandType = py "TRANSFER_RECEIPT" ∨
      parts.commandType = py "TRANSFER_RECEIPT_STATUS"
  · rw [if_pos hreceipt] at h
    rw [codes_of_keeps (applyTransferReceiptCommand_keeps (fun _ _ => rfl) (fun _ _ => rfl)
      (fun _ _ => rfl) _ _ _) h]
    exact hI
  rw [if_neg hreceipt] at h
  by_cases hreview : parts.commandType = py "RECEIPT_REVIEWED"
  · rw [if_pos hreview] at h
    rw [codes_of_keeps (applyReceiptReviewCommand_keeps (fun _ _ => rfl) _ _) h]
    exact hI
  rw [if_neg hreview] at h
  by_cases hallocated : parts.commandType = py "QR_ALLOCATED"
  · rw [if_pos hallocated] at h
    rw [if_pos hallocated] at hagree
    have hfree := applyQrAllocated_not_refused h
    exact applyQrAllocated_codes hI (hagree.resolve_right (by simp [hfree])) h
  -- A replacement finds the product of the old unit.
  rw [if_neg hallocated] at h hagree
  by_cases hreplace : parts.commandType = py "QR_REPLACE"
  · rw [if_pos hreplace] at h
    rw [codes_of_keeps
      (applyQrReplaceCommand_keeps (fun _ _ => rfl) (fun _ _ _ => rfl) _ _ _ _ _) h]
    exact hI
  rw [if_neg hreplace] at h
  by_cases hupsert : parts.commandType = py "PRODUCT_UPSERT"
  · rw [if_pos hupsert] at h
    rw [if_pos hupsert] at hagree
    have hfree := applyProductUpsert_not_refused h
    exact applyProductUpsert_codes hI (hagree.resolve_right (by simp [hfree])) h
  · rw [if_neg hupsert] at h
    exact absurd h Tx.raise_ok

/-- An action that agrees keeps the codes plain. -/
private theorem catalogTx_codes {rt : Runtime} {a : CatalogAction} {db db' : Db} {u : PUnit}
    (hI : CodesPlain db.codes) (hagree : CodeAgrees rt db a)
    (h : catalogTx rt a db = (.ok u, db')) : CodesPlain db'.codes := by
  cases a with
  | command st now uuid command =>
    obtain ⟨row, t, hrow, h⟩ := Tx.bind_ok.mp h
    obtain ⟨-, rfl⟩ := Tx.pure_ok.mp h
    rcases applyMasterCommand_run hrow with
      rfl | ⟨parts, before, after, v, inbox, hparts, hruns, hrun, rfl⟩
    · exact hI
    · unfold CodeAgrees at hagree
      dsimp only at hagree
      rw [hparts] at hagree
      -- The handler starts from the same products; only its row is in the inbox.
      have hafter : CodesPlain after.codes := by
        refine runHandler_codes ?_ ?_ hrun
        · exact hI
        · exact hagree.resolve_right (by simp [hruns])
      exact hafter
  | create form =>
    exact createProduct_codes hI (hagree.resolve_right (createProduct_not_refused h)) h
  | edit id form =>
    rw [codes_of_keeps (updateProductPricing_codes id form) h]
    exact hI

/-- Product codes are unique ignoring case, and every spelling of a stored code finds
its product, in every state of a run whose steps agree with the stored codes. -/
theorem product_codes_found (rt : Runtime) (db : Db) (hstart : CodesFound db)
    (as : List CatalogAction) (hagree : Guarded (catalogMachine rt) (CodeAgrees rt) db as)
    (db' : Db) (h : exec (catalogMachine rt) db as = some db') : CodesFound db' := by
  refine guarded_invariant ?_ hstart hagree h
  intro s a s' hI ha hstep
  obtain rfl := Option.some.inj hstep
  rcases Tx.atomically_cases (catalogTx rt a) s with ⟨u, t, hx, hcommit⟩ | ⟨e, t, hx, hback⟩
  · rw [hcommit]
    exact codesFound_iff.mpr (catalogTx_codes (codesFound_iff.mp hI) ha hx)
  · rw [hback]
    exact hI

/-! ## Witnesses -/

/-- An allocation in lower case, the same code upserted in upper case, and another code
by transfer: a run that agrees. -/
def agreeingRun : List CatalogAction :=
  [allocateOne (py "C-1") (py "tea"), upsertOne (py "C-2") (py "TEA"),
    transferOne (py "C-3") (py "milk")]

/-- The guarantee at a run that agrees. -/
theorem product_codes_found_home :
    ∃ db', exec (catalogMachine .plain) .empty agreeingRun = some db' ∧
      db'.codes = [py "tea", py "MILK"] ∧ CodesFound db' := by
  have hrun : (exec (catalogMachine .plain) .empty agreeingRun).map Db.codes
      = some [py "tea", py "MILK"] := by
    decide +kernel
  obtain ⟨db', hdb, hcodes⟩ := Option.map_eq_some_iff.mp hrun
  have hstart : CodesFound .empty := ⟨by decide, by simp [Db.empty]⟩
  have hagree : Guarded (catalogMachine .plain) (CodeAgrees .plain) .empty agreeingRun := by
    decide +kernel
  exact ⟨db', hdb, hcodes, product_codes_found .plain .empty hstart agreeingRun hagree db' hdb⟩

/-- One code, allocated in lower case and then brought by a transfer. -/
def twoSpellings : List CatalogAction :=
  [allocateOne (py "C-1") (py "abc"), transferOne (py "C-2") (py "abc")]

/-- An allocation stores the code as Master spells it, a transfer upper-cases it and
looks for that spelling: the second creates a second product, and the next product
command finds both. -/
theorem transfer_duplicates_code :
    ∃ db', exec (catalogMachine .plain) .empty twoSpellings = some db' ∧
      db'.codes = [py "abc", py "ABC"] ∧ (matchingProducts db' (py "abc")).length = 2 ∧
      ¬ CodesFound db' := by
  have hrun : (exec (catalogMachine .plain) .empty twoSpellings).map
        (fun db => (db.codes, (matchingProducts db (py "abc")).length))
      = some ([py "abc", py "ABC"], 2) := by
    decide +kernel
  obtain ⟨db', hdb, hfacts⟩ := Option.map_eq_some_iff.mp hrun
  obtain ⟨hcodes, hlength⟩ := Prod.mk.inj hfacts
  refine ⟨db', hdb, hcodes, hlength, fun hfound => ?_⟩
  have hdistinct := (codesFound_iff.mp hfound).distinct
  rw [hcodes] at hdistinct
  exact absurd hdistinct (by decide +kernel)

end SetuoraLite
