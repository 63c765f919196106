import SetuoraLite.Lib.DecimalContext
import SetuoraLite.Stock.Shelves

/-!
# The voucher of a batch

`calculate_voucher_summary`: what a batch comes to, line by line. A line is the items
of one product at one rate and one discount. On the sales side a price includes GST and
the tax is taken out of it, at the batch's own rates if it has any; elsewhere the tax is
added on top.

Rate and discount are the item's own once they are set, the GST rate of a line without
the batch's is the product's as it is now.
-/

namespace SetuoraLite

open Lib

/-- `decimal.InvalidOperation`, which is an `ArithmeticError`. -/
def PyError.invalidOperation : PyError := ⟨.other, py "[<class 'decimal.InvalidOperation'>]"⟩

/-- `quantize(Decimal("0.01"), rounding=ROUND_HALF_UP)`. -/
def quantized (x : ℚ) : Except PyError ℚ := (quantizeHalfUp 2 x).elim (.error .invalidOperation) .ok

/-- `money` of a float. -/
def money (value : PyFloat) : Except PyError ℚ :=
  value.toRat?.elim (.error .invalidOperation) quantized

/-- `sale_taxable_value`. -/
def saleTaxableValue (totalIncludingGst gstRate : ℚ) : Except PyError ℚ :=
  if gstRate ≤ 0 then quantized totalIncludingGst
  else quantized (inContext (inContext (totalIncludingGst * 100) / inContext (100 + gstRate)))

/-- `value * rate / 100`, rounded to paise. -/
def percentage (value rate : ℚ) : Except PyError ℚ :=
  quantized (inContext (inContext (value * rate) / 100))

structure VoucherLine where
  productId : Nat
  productCode : PyStr
  productName : PyStr
  tallyStockItemName : PyStr
  hsn : PyStr
  gstRate : ℚ
  unit : PyStr
  quantity : Nat
  rate : ℚ
  discountRate : ℚ
  grossValue : ℚ
  discountAmount : ℚ
  taxableValue : ℚ
  cgstRate : ℚ
  sgstRate : ℚ
  igstRate : ℚ
  cgstAmount : ℚ
  sgstAmount : ℚ
  igstAmount : ℚ
  lineTotal : ℚ
deriving DecidableEq

structure VoucherSummary where
  lines : List VoucherLine
  taxableValue : ℚ
  cgstAmount : ℚ
  sgstAmount : ℚ
  igstAmount : ℚ
  gstAmount : ℚ
  roundedTotalBeforeRoundOff : ℚ
  roundOff : ℚ
  finalValue : ℚ
deriving DecidableEq

/-! ## Lines -/

/-- A line before it is priced. -/
structure ItemGroup where
  product : Product
  quantity : Nat
  serials : List PyStr
  rate : PyFloat
  salesDiscountRate : PyFloat
deriving DecidableEq

/-- The rate of an item, its own or the product's. -/
def LoadedItem.rate (l : LoadedItem) : PyFloat := l.item.rate.getD l.product.defaultRate

/-- The discount of an item, its own or the product's. -/
def LoadedItem.salesDiscountRate (l : LoadedItem) : PyFloat :=
  l.item.salesDiscountRate.getD l.product.salesDiscountRate

/-- The key that `group_batch_items` groups by. -/
def ItemGroup.key (g : ItemGroup) : Nat × PyFloat × PyFloat :=
  (g.product.id, g.rate.orZero, g.salesDiscountRate.orZero)

/-- The group of one item. -/
def LoadedItem.group (l : LoadedItem) : ItemGroup :=
  ⟨l.product, 1, [l.serial.serialNumber], l.rate, l.salesDiscountRate⟩

/-- Put an item into its group, or open one at the end. -/
def addToGroups (groups : List ItemGroup) (l : LoadedItem) : List ItemGroup :=
  if groups.any fun g => g.key = l.group.key then
    groups.map fun g => if g.key = l.group.key then
      { g with quantity := g.quantity + 1, serials := g.serials ++ [l.serial.serialNumber] } else g
  else groups ++ [l.group]

/-- `group_batch_items`. -/
def groupBatchItems (items : List LoadedItem) : List ItemGroup := items.foldl addToGroups []

/-- A sale or its return: prices include GST. -/
def isSalesSide (batch : Batch) : Bool := batch.batchType = .sale || batch.batchType = .salesReturn

/-- A sale to another state. -/
def isInterstateSale (batch : Batch) : Bool :=
  isSalesSide batch && upper (batch.gstTreatment.getD []) = py "INTER_STATE"

/-- `(cgst or 0) + (sgst or 0)`. -/
def enteredGst (rt : Runtime) (cgst sgst : Option PyFloat) : PyFloat :=
  let a := (cgst.map (·.orZero)).getD .zero
  let b := (sgst.map (·.orZero)).getD .zero
  if a = .zero then b else if b = .zero then a else rt.floatSub a b.negated

/-- The tax of a line: its GST rate, the taxable value and the split. -/
structure LineTax where
  gstRate : ℚ
  taxableValue : ℚ
  cgstRate : ℚ
  sgstRate : ℚ
  igstRate : ℚ
  cgstAmount : ℚ
  sgstAmount : ℚ
  igstAmount : ℚ

/-- Half central and half state tax. -/
def splitTax (gstRate taxableValue : ℚ) : Except PyError LineTax := do
  let half ← quantized (inContext (gstRate / 2))
  let amount ← percentage taxableValue half
  .ok ⟨gstRate, taxableValue, half, half, 0, amount, amount, 0⟩

/-- The value before tax: a sales price includes it. -/
def taxableOf (batch : Batch) (lineAmount gstRate : ℚ) : Except PyError ℚ :=
  if isSalesSide batch then saleTaxableValue lineAmount gstRate else .ok lineAmount

/-- The discount of a line; only the sales side has one. -/
def lineDiscount (batch : Batch) (g : ItemGroup) : Except PyError ℚ :=
  if isSalesSide batch then money g.salesDiscountRate else .ok 0

/-- The branches of `calculate_voucher_summary` over where a line's GST rate comes from. -/
def lineTax (rt : Runtime) (batch : Batch) (productGstRate lineAmount : ℚ) :
    Except PyError LineTax :=
  if isInterstateSale batch then do
    let igstRate ← batch.gstIgstRate.elim (.ok productGstRate) money
    let taxableValue ← saleTaxableValue lineAmount igstRate
    let igstAmount ← percentage taxableValue igstRate
    .ok ⟨igstRate, taxableValue, 0, 0, igstRate, 0, 0, igstAmount⟩
  else if isSalesSide batch && (batch.gstCgstRate.isSome || batch.gstSgstRate.isSome) then do
    let gstRate ← money (enteredGst rt batch.gstCgstRate batch.gstSgstRate)
    let taxableValue ← saleTaxableValue lineAmount gstRate
    splitTax gstRate taxableValue
  else do
    let taxableValue ← taxableOf batch lineAmount productGstRate
    splitTax productGstRate taxableValue

/-- One round of the loop of `calculate_voucher_summary`. -/
def voucherLine (rt : Runtime) (batch : Batch) (g : ItemGroup) : Except PyError VoucherLine := do
  let rate ← money g.rate
  let grossValue ← quantized (inContext (rate * g.quantity))
  let discountRate ← lineDiscount batch g
  let discountAmount ← percentage grossValue discountRate
  let lineAmount ← quantized (inContext (grossValue - discountAmount))
  let productGstRate ← money g.product.gstRate
  let tax ← lineTax rt batch productGstRate lineAmount
  let lineTotal ← quantized (inContext (inContext (inContext (tax.taxableValue + tax.cgstAmount) +
    tax.sgstAmount) + tax.igstAmount))
  .ok { productId := g.product.id, productCode := g.product.productCode,
        productName := g.product.productName, tallyStockItemName := g.product.tallyStockItemName,
        hsn := g.product.hsn, gstRate := tax.gstRate, unit := g.product.unit,
        quantity := g.quantity,
        rate := rate, discountRate := discountRate, grossValue := grossValue,
        discountAmount := discountAmount, taxableValue := tax.taxableValue,
        cgstRate := tax.cgstRate,
        sgstRate := tax.sgstRate, igstRate := tax.igstRate, cgstAmount := tax.cgstAmount,
        sgstAmount := tax.sgstAmount, igstAmount := tax.igstAmount, lineTotal := lineTotal }

/-- `a += b`, line by line. -/
def runningTotal (amounts : List ℚ) : ℚ := amounts.foldl (fun a b => inContext (a + b)) 0

/-- `calculate_voucher_summary`. -/
def calculateVoucherSummary (rt : Runtime) (loaded : LoadedBatch) :
    Except PyError VoucherSummary := do
  let lines ← (groupBatchItems loaded.items).mapM (voucherLine rt loaded.batch)
  let taxableTotal := runningTotal (lines.map (·.taxableValue))
  let cgstTotal := runningTotal (lines.map (·.cgstAmount))
  let sgstTotal := runningTotal (lines.map (·.sgstAmount))
  let igstTotal := runningTotal (lines.map (·.igstAmount))
  let gstTotal ← quantized (inContext (inContext (cgstTotal + sgstTotal) + igstTotal))
  let beforeRoundOff ← quantized (inContext (taxableTotal + gstTotal))
  let finalValue ← (quantizeHalfUp 0 beforeRoundOff).elim (.error .invalidOperation) .ok
  let roundOff ← quantized (inContext (finalValue - beforeRoundOff))
  let taxableValue ← quantized taxableTotal
  let cgstAmount ← quantized cgstTotal
  let sgstAmount ← quantized sgstTotal
  let igstAmount ← quantized igstTotal
  let finalValue ← quantized finalValue
  .ok { lines := lines, taxableValue := taxableValue, cgstAmount := cgstAmount,
        sgstAmount := sgstAmount, igstAmount := igstAmount, gstAmount := gstTotal,
        roundedTotalBeforeRoundOff := beforeRoundOff, roundOff := roundOff,
        finalValue := finalValue }

/-- `validate_priced_batch`. -/
def validatePricedBatch (rt : Runtime) (loaded : LoadedBatch) : Except PyError Unit := do
  let summary ← calculateVoucherSummary rt loaded
  if loaded.batch.batchType = .audit then .ok ()
  else
    let missing := (summary.lines.filter fun line => line.rate ≤ 0).map (·.productName)
    if missing = [] then .ok ()
    else .error ⟨.value, py "Set a positive rate for: " ++ joinWith (py ", ")
      (missing.dedup.insertionSort fun a b => strLe a b = true)⟩

end SetuoraLite
