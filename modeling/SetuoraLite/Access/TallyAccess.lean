import SetuoraLite.Access.Users

/-!
# Who may see which Tally data

A user may be restricted to some companies, to some ledgers and to the vouchers of some Tally
users: the assignments are rows of one table, one kind for each resource type. A user without
assignments of a type is not restricted by it.

Assignments go when their company is deleted and when they are replaced, and the last one of a
type takes the restriction with it: `KeepsRestricted` says for which steps that does not happen,
and `tally_restrictions_fail_closed` what holds of every run of such steps.
-/

namespace SetuoraLite

open Lib

/-! ## The tables -/

/-- `COMPANY_RESOURCE`, `LEDGER_RESOURCE` and `TALLY_USER_RESOURCE`. -/
inductive TallyResourceType
  | company | ledger | tallyUser
deriving DecidableEq

structure Company where
  id : Nat
  name : PyStr
  isActive : Bool
deriving DecidableEq

structure UserTallyAccess where
  userId : Nat
  companyId : Nat
  resourceType : TallyResourceType
  resourceKey : PyStr
  resourceLabel : PyStr
deriving DecidableEq

structure TallyLedgerCache where
  id : Nat
  companyId : Nat
  tallyCompany : PyStr
  tallyCompanyKey : PyStr
  ledgerKey : PyStr
  name : PyStr
  parent : PyStr
  closingBalance : PyStr
deriving DecidableEq

structure TallySalesVoucherCache where
  id : Nat
  companyId : Nat
  tallyCompany : PyStr
  tallyCompanyKey : PyStr
  remoteId : PyStr
  voucherDate : PyStr
  voucherNumber : PyStr
  voucherType : PyStr
  partyLedger : PyStr
  amount : PyStr
  narration : PyStr
  tallyUser : PyStr
deriving DecidableEq

/-- A ledger as Tally reports it. -/
structure TallyLedger where
  name : PyStr
  parent : PyStr
  closingBalance : PyStr
deriving DecidableEq

/-- A voucher as Tally reports it. -/
structure TallySalesVoucher where
  date : PyStr
  voucherNumber : PyStr
  voucherType : PyStr
  partyLedger : PyStr
  amount : PyStr
  narration : PyStr
  remoteId : PyStr
  tallyUser : PyStr
deriving DecidableEq

/-- The tables that Tally access is about. -/
structure TallyDb where
  companies : List Company
  access : List UserTallyAccess
  ledgers : List TallyLedgerCache
  vouchers : List TallySalesVoucherCache
deriving DecidableEq

/-- `resource_key`. -/
def resourceKey (rt : Runtime) (value : PyStr) : PyStr := rt.casefold (strip value)

/-- The assignments of a type that a user has. -/
def TallyDb.rowsOf (db : TallyDb) (userId : Nat) (type : TallyResourceType) :
    List UserTallyAccess :=
  db.access.filter fun row => row.userId = userId && row.resourceType = type

/-! ## What a user sees -/

/-- `_assignments`. -/
def assignments (db : TallyDb) (user : UserAccount) (type : TallyResourceType) :
    List UserTallyAccess :=
  if hasRole user.role .superAdmin = true then [] else db.rowsOf user.id type

/-- `scoped_companies`. -/
def scopedCompanies (db : TallyDb) (user : UserAccount) : List Company :=
  let companyAssignments := assignments db user .company
  let visible := if companyAssignments = [] then db.companies
    else db.companies.filter fun company => company.id ∈ companyAssignments.map (·.companyId)
  visible.insertionSort fun a b => strLe a.name b.name = true

/-- `can_access_company`. -/
def canAccessCompany (db : TallyDb) (user : UserAccount) (companyId : Nat) : Bool :=
  let companyAssignments := assignments db user .company
  companyAssignments = [] || companyId ∈ companyAssignments.map (·.companyId)

/-- The keys that a user is assigned in a company. -/
def allowedKeys (rows : List UserTallyAccess) (companyId : Nat) : List PyStr :=
  (rows.filter fun row => row.companyId = companyId).map (·.resourceKey)

/-- `filter_ledgers`. -/
def filterLedgers (rt : Runtime) (db : TallyDb) (user : UserAccount) (companyId : Nat)
    (ledgers : List TallyLedger) : List TallyLedger :=
  let ledgerAssignments := assignments db user .ledger
  if ledgerAssignments = [] then ledgers
  else ledgers.filter fun ledger =>
    resourceKey rt ledger.name ∈ allowedKeys ledgerAssignments companyId

/-- `filter_sales_vouchers`. -/
def filterSalesVouchers (rt : Runtime) (db : TallyDb) (user : UserAccount) (companyId : Nat)
    (vouchers : List TallySalesVoucher) : List TallySalesVoucher :=
  let ledgerAssignments := assignments db user .ledger
  let visible := if ledgerAssignments = [] then vouchers
    else vouchers.filter fun voucher =>
      resourceKey rt voucher.partyLedger ∈ allowedKeys ledgerAssignments companyId
  let tallyUserAssignments := assignments db user .tallyUser
  if tallyUserAssignments = [] then visible
  else visible.filter fun voucher =>
    resourceKey rt voucher.tallyUser ∈ allowedKeys tallyUserAssignments companyId

/-! ## Deleting companies -/

/-- `db.delete(company)`, with what its foreign keys cascade to. -/
def TallyDb.dropCompany (db : TallyDb) (companyId : Nat) : TallyDb where
  companies := db.companies.filter fun company => company.id ≠ companyId
  access := db.access.filter fun row => row.companyId ≠ companyId
  ledgers := db.ledgers.filter fun row => row.companyId ≠ companyId
  vouchers := db.vouchers.filter fun row => row.companyId ≠ companyId

/-- `delete_company`. -/
def deleteCompany (db : TallyDb) (companyId : Nat) : Except PyError TallyDb :=
  match lookup (·.id) companyId db.companies with
  | none => .error ⟨.value, py "Company not found."⟩
  | some company =>
    if db.companies.length ≤ 1 then .error ⟨.value, py "At least one company is required."⟩
    else if company.isActive = true then
      .error ⟨.value, py "Activate another company before deleting this one."⟩
    else .ok (db.dropCompany companyId)

/-! ## Refreshing the caches -/

/-- `replace_cached_ledgers`: known ledgers are written over, new ones inserted, and the rest
deleted. A new ledger that is listed twice, or a company that is gone, makes the commit fail. -/
def replaceCachedLedgers (rt : Runtime) (db : TallyDb) (companyId : Nat) (tallyCompany : PyStr)
    (ledgers : List TallyLedger) : Except PyError TallyDb :=
  let tallyCompanyKey := resourceKey rt tallyCompany
  let listed := ledgers.filter fun ledger => resourceKey rt ledger.name ≠ []
  let mine (row : TallyLedgerCache) : Bool :=
    row.companyId = companyId && row.tallyCompanyKey = tallyCompanyKey
  let existing := (db.ledgers.filter mine).map (·.ledgerKey)
  let new := listed.filter fun ledger => resourceKey rt ledger.name ∉ existing
  let written (row : TallyLedgerCache) (ledger : TallyLedger) : TallyLedgerCache :=
    { row with tallyCompany := strip tallyCompany, name := strip ledger.name,
               parent := strip ledger.parent, closingBalance := strip ledger.closingBalance }
  let inserted := new.foldl (fun rows ledger => rows ++ [written
    ⟨nextId (·.id) rows, companyId, [], tallyCompanyKey, resourceKey rt ledger.name, [], [], []⟩
      ledger]) db.ledgers
  if ¬ (new.map fun ledger => resourceKey rt ledger.name).Nodup ∨
      (new ≠ [] ∧ lookup (·.id) companyId db.companies = none) then .error .integrity
  else
    let kept := inserted.filterMap fun row =>
      if mine row then
        (listed.filter fun ledger => resourceKey rt ledger.name = row.ledgerKey).getLast?.map
          (written row)
      else some row
    .ok { db with ledgers := kept }

/-- `_voucher_identity`. -/
def voucherIdentity (voucher : TallySalesVoucher) : PyStr :=
  if strip voucher.remoteId ≠ [] then strip voucher.remoteId
  else py "fallback:" ++ joinWith [31] [strip voucher.date, strip voucher.voucherType,
    strip voucher.voucherNumber, strip voucher.partyLedger, strip voucher.amount]

/-- `replace_cached_sales_book`: the vouchers of a period, as above. -/
def replaceCachedSalesBook (rt : Runtime) (db : TallyDb) (companyId : Nat) (tallyCompany : PyStr)
    (fromDate toDate : Date) (vouchers : List TallySalesVoucher) : Except PyError TallyDb :=
  let tallyCompanyKey := resourceKey rt tallyCompany
  let mine (row : TallySalesVoucherCache) : Bool :=
    row.companyId = companyId && row.tallyCompanyKey = tallyCompanyKey
  let inPeriod (row : TallySalesVoucherCache) : Bool :=
    mine row && strLe (isoDate fromDate) row.voucherDate && strLe row.voucherDate (isoDate toDate)
  let existing := (db.vouchers.filter inPeriod).map (·.remoteId)
  let new := vouchers.filter fun voucher => voucherIdentity voucher ∉ existing
  let written (row : TallySalesVoucherCache) (voucher : TallySalesVoucher) :
      TallySalesVoucherCache :=
    { row with tallyCompany := strip tallyCompany, voucherDate := strip voucher.date,
               voucherNumber := strip voucher.voucherNumber,
               voucherType := strip voucher.voucherType,
               partyLedger := strip voucher.partyLedger, amount := strip voucher.amount,
               narration := strip voucher.narration, tallyUser := strip voucher.tallyUser }
  let inserted := (new.foldl (fun rows voucher => rows ++ [written
    ⟨nextId (·.id) rows, companyId, [], tallyCompanyKey, voucherIdentity voucher, [], [], [], [],
      [], [], []⟩
      voucher]) db.vouchers).drop db.vouchers.length
  let taken := (db.vouchers.filter mine).map (·.remoteId)
  if ¬ (new.map voucherIdentity).Nodup ∨
    (new.any fun voucher => voucherIdentity voucher ∈ taken) = true ∨
      (new ≠ [] ∧ lookup (·.id) companyId db.companies = none) then .error .integrity
  else
    let kept := db.vouchers.filterMap fun row =>
      if mine row && row.voucherDate = [] then none
      else if inPeriod row then
        (vouchers.filter fun voucher => voucherIdentity voucher = row.remoteId).getLast?.map
          (written row)
      else some row
    .ok { db with vouchers := kept ++ inserted }

/-! ## Replacing the assignments -/

/-- What a form submits: companies and ledgers by id, Tally users as `company:name`. -/
structure AccessSubmission where
  companyIds : List ℤ
  ledgerIds : List ℤ
  tallyUserValues : List PyStr
deriving DecidableEq

/-- `raw.partition(":")`, read; `none` where the loop continues. -/
def tallyUserValue (rt : Runtime) (raw : PyStr) : Option (ℤ × PyStr) :=
  match raw.dropWhile (· ≠ cp ':') with
  | [] => none
  | _ :: username =>
    if strip username = [] then none
    else (rt.intOfText (raw.takeWhile (· ≠ cp ':'))).map fun companyId =>
      (companyId, strip username)

/-- An entry of `user_rows`. -/
def TallyDb.userRow (db : TallyDb) (rt : Runtime) (raw : PyStr) : Option (Nat × PyStr) :=
  (tallyUserValue rt raw).bind fun (companyId, username) =>
    (db.companies.find? fun company => (company.id : ℤ) = companyId).map fun company =>
      (company.id, username)

/-- Every number that the queries are given fits SQLite's integers. -/
def AccessSubmission.fits (rt : Runtime) (submission : AccessSubmission) : Bool :=
  (submission.companyIds ++ submission.ledgerIds ++
    (submission.tallyUserValues.filterMap (tallyUserValue rt)).map (·.1)).all fun z =>
      -(2 ^ 63) ≤ z && z < 2 ^ 63

/-- The elements whose key is not `seen` and not the key of an earlier one. -/
def firstsBy {α κ : Type} [DecidableEq κ] (key : α → κ) : List κ → List α → List α
  | _, [] => []
  | seen, x :: xs =>
    if key x ∈ seen then firstsBy key seen xs else x :: firstsBy key (key x :: seen) xs

/-- The assignments of a type that a submission stands for. -/
def AccessSubmission.rows (rt : Runtime) (db : TallyDb) (userId : Nat)
    (submission : AccessSubmission) :
    TallyResourceType → List UserTallyAccess
  | .company =>
    (db.companies.filter fun company => (company.id : ℤ) ∈ submission.companyIds).map fun company =>
      ⟨userId, company.id, .company, decDigits company.id, company.name⟩
  | .ledger =>
    (firstsBy (fun row : TallyLedgerCache => (row.companyId, resourceKey rt row.name)) []
      (db.ledgers.filter fun row => (row.id : ℤ) ∈ submission.ledgerIds)).map fun row =>
        ⟨userId, row.companyId, .ledger, resourceKey rt row.name, row.name⟩
  | .tallyUser =>
    (firstsBy (fun row : Nat × PyStr => (row.1, resourceKey rt row.2)) []
      (submission.tallyUserValues.filterMap (db.userRow rt))).map fun row =>
        ⟨userId, row.1, .tallyUser, resourceKey rt row.2, row.2⟩

/-- `replace_user_access`. -/
def replaceUserAccess (rt : Runtime) (db : TallyDb) (user : UserAccount)
    (submission : AccessSubmission) :
    Except PyError TallyDb :=
  if hasRole user.role .superAdmin = true then
    .error ⟨.value, py "Super admins always have unrestricted Tally access."⟩
  else if submission.fits rt = false then
    .error ⟨.other, py "Python int too large to convert to SQLite INTEGER"⟩
  else
    let others := db.access.filter fun row => row.userId ≠ user.id
    let rows := submission.rows rt db user.id
    .ok { db with access := others ++ rows .company ++ rows .ledger ++ rows .tallyUser }

/-! ## Runs -/

inductive TallyAction
  | deleteCompany (companyId : Nat)
  -- `clear_legacy_placeholder_settings` deletes companies without the checks.
  | dropCompany (companyId : Nat)
  | refreshLedgers (companyId : Nat) (tallyCompany : PyStr) (ledgers : List TallyLedger)
  | refreshSalesBook (companyId : Nat) (tallyCompany : PyStr) (fromDate toDate : Date)
    (vouchers : List TallySalesVoucher)
  | replaceAccess (user : UserAccount) (submission : AccessSubmission)
deriving DecidableEq

/-- What a call does; one that raises is rolled back. -/
def TallyDb.perform (rt : Runtime) (db : TallyDb) : TallyAction → Except PyError TallyDb
  | .deleteCompany companyId => SetuoraLite.deleteCompany db companyId
  | .dropCompany companyId => .ok (db.dropCompany companyId)
  | .refreshLedgers companyId tallyCompany ledgers =>
    replaceCachedLedgers rt db companyId tallyCompany ledgers
  | .refreshSalesBook companyId tallyCompany fromDate toDate vouchers =>
    replaceCachedSalesBook rt db companyId tallyCompany fromDate toDate vouchers
  | .replaceAccess user submission => replaceUserAccess rt db user submission

/-- Calls one after another. -/
def tallyMachine (rt : Runtime) : Machine TallyDb TallyAction :=
  fun db action => some (match db.perform rt action with | .ok db' => db' | .error _ => db)

/-! ## What a submission names -/

/-- The submission names the resource: a company that is there, a cached ledger, or a Tally user
of a company that is there. Without a key any resource of the company will do. -/
def Granted (rt : Runtime) (db : TallyDb) (submission : AccessSubmission) (companyId : Nat)
    (key : Option PyStr) :
    TallyResourceType → Prop
  | .company =>
    (companyId : ℤ) ∈ submission.companyIds ∧ ∃ company ∈ db.companies, company.id = companyId
  | .ledger => ∃ row ∈ db.ledgers, (row.id : ℤ) ∈ submission.ledgerIds ∧ row.companyId = companyId ∧
      ∀ k ∈ key, resourceKey rt row.name = k
  | .tallyUser =>
    ∃ raw ∈ submission.tallyUserValues, ∃ username, db.userRow rt raw = some (companyId, username) ∧
      ∀ k ∈ key, resourceKey rt username = k

/-- The step leaves the user an assignment of the type: a deletion one of another company, a
replacement one that the submission names. -/
def KeepsRestricted (rt : Runtime) (userId : Nat) (type : TallyResourceType) (db : TallyDb) :
    TallyAction → Prop
  | .deleteCompany companyId =>
    (∃ db', deleteCompany db companyId = .ok db') →
      ∃ row ∈ db.rowsOf userId type, row.companyId ≠ companyId
  | .dropCompany companyId => ∃ row ∈ db.rowsOf userId type, row.companyId ≠ companyId
  | .refreshLedgers _ _ _ => True
  | .refreshSalesBook _ _ _ _ _ => True
  | .replaceAccess user submission =>
    user.id = userId → hasRole user.role .superAdmin = false → submission.fits rt = true →
      ∃ companyId, Granted rt db submission companyId none type

/-! ## One step -/

theorem mem_firstsBy {α κ : Type} [DecidableEq κ] {key : α → κ} {x : α} :
    ∀ {xs : List α} {seen : List κ}, x ∈ firstsBy key seen xs → x ∈ xs := by
  intro xs
  induction xs with
  | nil => exact fun h => h
  | cons y xs ih =>
    intro seen h
    unfold firstsBy at h
    split at h
    · exact List.mem_cons_of_mem y (ih h)
    · rcases List.mem_cons.mp h with rfl | h
      · exact List.mem_cons_self
      · exact List.mem_cons_of_mem y (ih h)

/-- The first element is always kept. -/
theorem firstsBy_ne_nil {α κ : Type} [DecidableEq κ] {key : α → κ} {xs : List α} (h : xs ≠ []) :
    firstsBy key [] xs ≠ [] := by
  cases xs with
  | nil => exact absurd rfl h
  | cons x xs => simp [firstsBy]

section Step

variable {rt : Runtime} {db db' : TallyDb} {userId : Nat} {type : TallyResourceType}

/-- What a submission stands for, it names. -/
theorem names_of_mem {submission : AccessSubmission} {row : UserTallyAccess}
    (h : row ∈ submission.rows rt db userId type) :
    Granted rt db submission row.companyId (some row.resourceKey) type := by
  cases type with
  | company =>
    obtain ⟨company, hcompany, rfl⟩ := List.mem_map.mp h
    obtain ⟨hstored, hid⟩ := List.mem_filter.mp hcompany
    exact ⟨by simpa using hid, company, hstored, rfl⟩
  | ledger =>
    obtain ⟨ledger, hledger, rfl⟩ := List.mem_map.mp h
    obtain ⟨hstored, hid⟩ := List.mem_filter.mp (mem_firstsBy hledger)
    exact ⟨ledger, hstored, by simpa using hid, rfl, fun k hk => Option.some.inj hk⟩
  | tallyUser =>
    obtain ⟨user, huser, rfl⟩ := List.mem_map.mp h
    obtain ⟨raw, hraw, hrow⟩ := List.mem_filterMap.mp (mem_firstsBy huser)
    exact ⟨raw, hraw, user.2, hrow, fun k hk => Option.some.inj hk⟩

/-- A submission that names something stands for something. -/
theorem rows_ne_nil {submission : AccessSubmission} {companyId : Nat}
    (h : Granted rt db submission companyId none type) :
    submission.rows rt db userId type ≠ [] := by
  cases type with
  | company =>
    obtain ⟨hid, company, hstored, rfl⟩ := h
    have hmem : company ∈ db.companies.filter fun company =>
        (company.id : ℤ) ∈ submission.companyIds :=
      List.mem_filter.mpr ⟨hstored, by simpa using hid⟩
    exact List.ne_nil_of_mem (List.mem_map_of_mem hmem)
  | ledger =>
    obtain ⟨ledger, hstored, hid, -, -⟩ := h
    have hmem : ledger ∈ db.ledgers.filter fun row => (row.id : ℤ) ∈ submission.ledgerIds :=
      List.mem_filter.mpr ⟨hstored, by simpa using hid⟩
    exact fun hnil => firstsBy_ne_nil (List.ne_nil_of_mem hmem) (List.map_eq_nil_iff.mp hnil)
  | tallyUser =>
    obtain ⟨raw, hraw, username, hrow, -⟩ := h
    have hmem : (companyId, username) ∈ submission.tallyUserValues.filterMap (db.userRow rt) :=
      List.mem_filterMap.mpr ⟨raw, hraw, hrow⟩
    exact fun hnil => firstsBy_ne_nil (List.ne_nil_of_mem hmem) (List.map_eq_nil_iff.mp hnil)

/-- The assignments that a submission stands for are the user's, and of their type. -/
theorem rows_filter (submission : AccessSubmission) (ownerId : Nat) (type' : TallyResourceType) :
    (submission.rows rt db ownerId type').filter
      (fun row => row.userId = userId && row.resourceType = type)
      = if ownerId = userId ∧ type' = type then submission.rows rt db ownerId type' else [] := by
  have hall : ∀ row ∈ submission.rows rt db ownerId type', row.userId = ownerId ∧
      row.resourceType = type' := by
    intro row hrow
    cases type' with
    | company =>
      obtain ⟨company, -, rfl⟩ := List.mem_map.mp hrow
      exact ⟨rfl, rfl⟩
    | ledger =>
      obtain ⟨ledger, -, rfl⟩ := List.mem_map.mp hrow
      exact ⟨rfl, rfl⟩
    | tallyUser =>
      obtain ⟨user, -, rfl⟩ := List.mem_map.mp hrow
      exact ⟨rfl, rfl⟩
  by_cases h : ownerId = userId ∧ type' = type
  · rw [if_pos h]
    refine List.filter_eq_self.mpr fun row hrow => ?_
    simp [hall row hrow, h.1, h.2]
  · rw [if_neg h]
    refine List.filter_eq_nil_iff.mpr fun row hrow => ?_
    obtain ⟨howner, htype⟩ := hall row hrow
    rw [howner, htype]
    simpa using h

/-- After a replacement the user's assignments are the submitted ones, another user's are as
they were. -/
theorem replaceUserAccess_rowsOf {user : UserAccount} {submission : AccessSubmission}
    (h : replaceUserAccess rt db user submission = .ok db') :
    db'.rowsOf userId type
      = if user.id = userId then submission.rows rt db userId type else db.rowsOf userId type := by
  unfold replaceUserAccess at h
  split at h
  · cases h
  · split at h
    · cases h
    · obtain rfl := Except.ok.inj h
      unfold TallyDb.rowsOf
      dsimp only
      simp only [List.filter_append, rows_filter, List.filter_filter]
      -- The rows of the user are replaced; those of everybody else are kept.
      by_cases hid : user.id = userId
      · subst hid
        have hnone : (db.access.filter fun row =>
            (decide (row.userId = user.id) && decide (row.resourceType = type)) &&
                decide (row.userId ≠ user.id)) = [] := by
          refine List.filter_eq_nil_iff.mpr fun row _ => ?_
          by_cases hrow : row.userId = user.id <;> simp [hrow]
        rw [hnone, if_pos rfl]
        cases type <;> simp
      · have hsame : (db.access.filter fun row =>
            (decide (row.userId = userId) && decide (row.resourceType = type)) &&
              decide (row.userId ≠ user.id))
              = db.access.filter fun row => row.userId = userId && row.resourceType = type := by
          refine List.filter_congr fun row _ => ?_
          by_cases hrow : row.userId = userId
          · simp [hrow, Ne.symm hid]
          · simp [hrow]
        rw [hsame, if_neg hid]
        simp [hid]

theorem dropCompany_rowsOf (companyId : Nat) :
    (db.dropCompany companyId).rowsOf userId type
      = (db.rowsOf userId type).filter fun row => row.companyId ≠ companyId := by
  unfold TallyDb.rowsOf TallyDb.dropCompany
  dsimp only
  rw [List.filter_filter, List.filter_filter]
  refine List.filter_congr fun row _ => ?_
  rw [Bool.and_comm]

/-- A step that keeps the user restricted leaves an assignment of the type, and adds none that
is not named. -/
theorem KeepsRestricted.step {a : TallyAction} (h : KeepsRestricted rt userId type db a)
    (hrows : db.rowsOf userId type ≠ []) (hstep : tallyMachine rt db a = some db') :
    db'.rowsOf userId type ≠ [] ∧ ∀ row ∈ db'.rowsOf userId type, row ∈ db.rowsOf userId type ∨
      ∃ user submission, a = .replaceAccess user submission ∧ user.id = userId ∧
        Granted rt db submission row.companyId (some row.resourceKey) type := by
  -- A step that leaves the user's rows of the type alone.
  have hsame : db'.rowsOf userId type = db.rowsOf userId type → db'.rowsOf userId type ≠ [] ∧
      ∀ row ∈ db'.rowsOf userId type, row ∈ db.rowsOf userId type ∨
        ∃ user submission, a = .replaceAccess user submission ∧ user.id = userId ∧
          Granted rt db submission row.companyId (some row.resourceKey) type := by
    intro heq
    rw [heq]
    exact ⟨hrows, fun row hrow => .inl hrow⟩
  -- A company that goes takes its rows, but by the condition not the last one.
  have hdrop : ∀ companyId, (∃ row ∈ db.rowsOf userId type, row.companyId ≠ companyId) →
      db' = db.dropCompany companyId → db'.rowsOf userId type ≠ [] ∧
        ∀ row ∈ db'.rowsOf userId type, row ∈ db.rowsOf userId type ∨
          ∃ user submission, a = .replaceAccess user submission ∧ user.id = userId ∧
            Granted rt db submission row.companyId (some row.resourceKey) type := by
    rintro companyId ⟨row, hrow, hother⟩ rfl
    rw [dropCompany_rowsOf]
    have hkept : row ∈ (db.rowsOf userId type).filter fun row => row.companyId ≠ companyId :=
      List.mem_filter.mpr ⟨hrow, by simpa using hother⟩
    exact ⟨List.ne_nil_of_mem hkept, fun row' hrow' => .inl (List.mem_filter.mp hrow').1⟩
  have hstep := Option.some.inj hstep
  cases hperform : db.perform rt a with
  | error e =>
    rw [hperform] at hstep
    exact hsame (by rw [← hstep])
  | ok after =>
    rw [hperform] at hstep
    obtain rfl : after = db' := hstep
    cases a with
    | deleteCompany companyId =>
      refine hdrop companyId (h ⟨after, hperform⟩) ?_
      unfold TallyDb.perform deleteCompany at hperform
      dsimp only at hperform
      split at hperform
      · cases hperform
      · split at hperform
        · cases hperform
        · split at hperform
          · cases hperform
          · exact (Except.ok.inj hperform).symm
    | dropCompany companyId => exact hdrop companyId h (Except.ok.inj hperform).symm
    | refreshLedgers companyId tallyCompany ledgers =>
      apply hsame
      unfold TallyDb.perform replaceCachedLedgers at hperform
      dsimp only at hperform
      split at hperform
      · cases hperform
      · rw [← Except.ok.inj hperform]
        rfl
    | refreshSalesBook companyId tallyCompany fromDate toDate vouchers =>
      apply hsame
      unfold TallyDb.perform replaceCachedSalesBook at hperform
      dsimp only at hperform
      split at hperform
      · cases hperform
      · rw [← Except.ok.inj hperform]
        rfl
    -- The submission names a resource of the type, so the new rows are not empty.
    | replaceAccess user submission =>
      have hreplace : replaceUserAccess rt db user submission = .ok after := hperform
      have hafter : after.rowsOf userId type
          = if user.id = userId then submission.rows rt db userId type else db.rowsOf userId type :=
        replaceUserAccess_rowsOf hreplace
      by_cases hid : user.id = userId
      · rw [if_pos hid] at hafter
        obtain ⟨companyId, hnames⟩ : ∃ companyId, Granted rt db submission companyId none type := by
          unfold replaceUserAccess at hreplace
          split at hreplace
          · cases hreplace
          · next hrole =>
            split at hreplace
            · cases hreplace
            · next hfits => exact h hid (by simpa using hrole) (by simpa using hfits)
        rw [hafter]
        exact ⟨rows_ne_nil hnames,
          fun row hrow => .inr ⟨user, submission, rfl, hid, names_of_mem hrow⟩⟩
      · rw [if_neg hid] at hafter
        exact hsame hafter

end Step

/-! ## What the filters let through -/

/-- What a user may see or not. -/
inductive TallyResource
  | company (companyId : Nat)
  | ledger (companyId : Nat) (name : PyStr)
  | voucher (companyId : Nat) (partyLedger tallyUser : PyStr)

/-- What the assignments of a type are compared with: the company, and the key in it. -/
def TallyResource.part (rt : Runtime) : TallyResource → TallyResourceType →
    Option (Nat × Option PyStr)
  | .company companyId, .company => some (companyId, none)
  | .ledger companyId name, .ledger => some (companyId, some (resourceKey rt name))
  | .voucher companyId partyLedger _, .ledger => some (companyId, some (resourceKey rt partyLedger))
  | .voucher companyId _ tallyUser, .tallyUser => some (companyId, some (resourceKey rt tallyUser))
  | _, _ => none

/-- The assignments of the type do not hide the resource. -/
def Passes (rt : Runtime) (db : TallyDb) (user : UserAccount) (type : TallyResourceType)
    (r : TallyResource) : Prop :=
  ∀ part ∈ r.part rt type, assignments db user type = [] ∨
    ∃ row ∈ assignments db user type, row.companyId = part.1 ∧ ∀ k ∈ part.2, row.resourceKey = k

section Filters

variable {rt : Runtime} {db : TallyDb} {user : UserAccount}

theorem canAccessCompany_iff {companyId : Nat} :
    canAccessCompany db user companyId = true ↔
      Passes rt db user .company (.company companyId) := by
  unfold canAccessCompany Passes TallyResource.part
  simp only [Bool.or_eq_true, decide_eq_true_eq, List.mem_map, Option.mem_some_iff, forall_eq',
    Option.not_mem_none, false_implies, implies_true, and_true]

theorem mem_scopedCompanies {company : Company} :
    company ∈ scopedCompanies db user ↔
      company ∈ db.companies ∧ canAccessCompany db user company.id = true := by
  unfold scopedCompanies canAccessCompany
  dsimp only
  rw [(List.perm_insertionSort _ _).mem_iff]
  by_cases hnone : assignments db user .company = []
  · simp [hnone]
  · rw [if_neg hnone, List.mem_filter]
    simp [hnone]

theorem mem_allowedKeys {rows : List UserTallyAccess} {companyId : Nat} {key : PyStr} :
    key ∈ allowedKeys rows companyId ↔
      ∃ row ∈ rows, row.companyId = companyId ∧ row.resourceKey = key := by
  unfold allowedKeys
  simp only [List.mem_map, List.mem_filter, decide_eq_true_eq, and_assoc]

/-- A filter by the assigned keys, where there are any. -/
theorem mem_filterKeys {α : Type} {rows : List UserTallyAccess} {companyId : Nat} {key : α → PyStr}
    {xs : List α} {x : α} :
    x ∈ (if rows = [] then xs else xs.filter fun x => key x ∈ allowedKeys rows companyId) ↔
      x ∈ xs ∧ (rows = [] ∨ ∃ row ∈ rows, row.companyId = companyId ∧ row.resourceKey = key x) := by
  by_cases hnone : rows = []
  · rw [if_pos hnone]
    simp [hnone]
  · rw [if_neg hnone, List.mem_filter, decide_eq_true_eq, mem_allowedKeys]
    simp [hnone]

theorem mem_filterLedgers {companyId : Nat} {ledgers : List TallyLedger} {ledger : TallyLedger} :
    ledger ∈ filterLedgers rt db user companyId ledgers ↔
      ledger ∈ ledgers ∧ Passes rt db user .ledger (.ledger companyId ledger.name) := by
  unfold filterLedgers Passes TallyResource.part
  dsimp only
  rw [mem_filterKeys]
  simp only [Option.mem_some_iff, forall_eq']

theorem mem_filterSalesVouchers {companyId : Nat} {vouchers : List TallySalesVoucher}
    {voucher : TallySalesVoucher} :
    voucher ∈ filterSalesVouchers rt db user companyId vouchers ↔ voucher ∈ vouchers ∧
      Passes rt db user .ledger (.voucher companyId voucher.partyLedger voucher.tallyUser) ∧
      Passes rt db user .tallyUser (.voucher companyId voucher.partyLedger voucher.tallyUser) := by
  unfold filterSalesVouchers Passes TallyResource.part
  dsimp only
  rw [mem_filterKeys, mem_filterKeys, and_assoc]
  simp only [Option.mem_some_iff, forall_eq']

end Filters

/-! ## Every run -/

/-- A call of the run for the user has named the resource, as the database was then. -/
def NamedInRun (rt : Runtime) (userId : Nat) (type : TallyResourceType) (part : Nat × Option PyStr)
    (db : TallyDb) (as : List TallyAction) : Prop :=
  ∃ pre user submission post before, as = pre ++ .replaceAccess user submission :: post ∧
    exec (tallyMachine rt) db pre = some before ∧ user.id = userId ∧
    Granted rt before submission part.1 part.2 type

theorem NamedInRun.snoc {rt : Runtime} {userId : Nat} {type : TallyResourceType}
    {part : Nat × Option PyStr} {db : TallyDb} {as : List TallyAction}
    (h : NamedInRun rt userId type part db as) (a : TallyAction) :
    NamedInRun rt userId type part db (as ++ [a]) := by
  obtain ⟨pre, user, submission, post, before, rfl, hbefore, hid, hnames⟩ := h
  exact ⟨pre, user, submission, post ++ [a], before, by simp, hbefore, hid, hnames⟩

/-- Who names a key of a company names the company. -/
theorem Granted.weaken {rt : Runtime} {db : TallyDb} {submission : AccessSubmission}
    {type : TallyResourceType} {companyId : Nat} {k : PyStr} {key : Option PyStr}
    (h : Granted rt db submission companyId (some k) type)
    (hkey : ∀ k' ∈ key, k = k') : Granted rt db submission companyId key type := by
  cases type with
  | company => exact h
  | ledger =>
    obtain ⟨row, hrow, hid, hcompany, hk⟩ := h
    exact ⟨row, hrow, hid, hcompany, fun k' hk' => (hk k rfl).trans (hkey k' hk')⟩
  | tallyUser =>
    obtain ⟨raw, hraw, username, hrow, hk⟩ := h
    exact ⟨raw, hraw, username, hrow, fun k' hk' => (hk k rfl).trans (hkey k' hk')⟩

section Run

variable {rt : Runtime} {userId : Nat} {type : TallyResourceType} {db db' : TallyDb}
    {as : List TallyAction}

/-- In a run that keeps the user restricted an assignment is left, and each one was there at the
start or has been named. -/
theorem rowsOf_run (hrows : db.rowsOf userId type ≠ [])
    (hguard : Guarded (tallyMachine rt) (KeepsRestricted rt userId type) db as)
    (hexec : exec (tallyMachine rt) db as = some db') :
    db'.rowsOf userId type ≠ [] ∧ ∀ row ∈ db'.rowsOf userId type, row ∈ db.rowsOf userId type ∨
      NamedInRun rt userId type (row.companyId, some row.resourceKey) db as := by
  induction as using List.reverseRecOn generalizing db' with
  | nil =>
    obtain rfl := Option.some.inj hexec
    exact ⟨hrows, fun row hrow => .inl hrow⟩
  | append_singleton as a ih =>
    obtain ⟨before, hbefore, hstep⟩ := exec_snoc.mp hexec
    obtain ⟨hguard, hlast⟩ := guarded_append.mp hguard
    obtain ⟨hleft, hfrom⟩ := ih hguard hbefore
    obtain ⟨hleft', hfrom'⟩ := (hlast before hbefore).1.step hleft hstep
    refine ⟨hleft', fun row hrow => ?_⟩
    rcases hfrom' row hrow with hold | ⟨user, submission, rfl, hid, hnames⟩
    · rcases hfrom row hold with hstart | hnamed
      · exact .inl hstart
      · exact .inr (hnamed.snoc a)
    · exact .inr ⟨as, user, submission, [], before, rfl, hbefore, hid, hnames⟩

/-- No step adds a company. -/
theorem companies_run (hexec : exec (tallyMachine rt) db as = some db') :
    ∀ company ∈ db'.companies, company ∈ db.companies := by
  refine exec_relation (R := fun s t : TallyDb => ∀ company ∈ t.companies, company ∈ s.companies)
    (fun _ _ h => h) (fun _ _ _ hst htu company h => hst company (htu company h)) ?_ hexec
  -- No call of this machine inserts a company.
  intro s a t hstep company hcompany
  have hstep := Option.some.inj hstep
  cases hperform : s.perform rt a with
  | error e =>
    rw [hperform] at hstep
    rwa [← hstep] at hcompany
  | ok after =>
    rw [hperform] at hstep
    obtain rfl : after = t := hstep
    cases a with
    | deleteCompany companyId =>
      unfold TallyDb.perform deleteCompany at hperform
      dsimp only at hperform
      split at hperform
      · cases hperform
      · split at hperform
        · cases hperform
        · split at hperform
          · cases hperform
          · rw [← Except.ok.inj hperform] at hcompany
            exact (List.mem_filter.mp hcompany).1
    | dropCompany companyId =>
      rw [← Except.ok.inj hperform] at hcompany
      exact (List.mem_filter.mp hcompany).1
    | refreshLedgers companyId tallyCompany ledgers =>
      unfold TallyDb.perform replaceCachedLedgers at hperform
      dsimp only at hperform
      split at hperform
      · cases hperform
      · rwa [← Except.ok.inj hperform] at hcompany
    | refreshSalesBook companyId tallyCompany fromDate toDate vouchers =>
      unfold TallyDb.perform replaceCachedSalesBook at hperform
      dsimp only at hperform
      split at hperform
      · cases hperform
      · rwa [← Except.ok.inj hperform] at hcompany
    | replaceAccess user submission =>
      unfold TallyDb.perform replaceUserAccess at hperform
      dsimp only at hperform
      split at hperform
      · cases hperform
      · split at hperform
        · cases hperform
        · rwa [← Except.ok.inj hperform] at hcompany

end Run

/-- If the type restricts the user, no step of the run takes the last assignment of the type. -/
def StaysRestricted (rt : Runtime) (user : UserAccount) (type : TallyResourceType) (db : TallyDb)
    (as : List TallyAction) : Prop :=
  assignments db user type ≠ [] → Guarded (tallyMachine rt) (KeepsRestricted rt user.id type) db as

/-- What passes the assignments of a type at the end of a run passed them at the start or was
named, if the user stays restricted. -/
theorem passes_run {rt : Runtime} {user : UserAccount}
    (hrole : hasRole user.role .superAdmin = false) {type : TallyResourceType} {db db' : TallyDb}
    {as : List TallyAction} (hstays : StaysRestricted rt user type db as)
    (hexec : exec (tallyMachine rt) db as = some db') {r : TallyResource}
    (h : Passes rt db' user type r) :
    Passes rt db user type r ∨ ∃ part ∈ r.part rt type, NamedInRun rt user.id type part db as := by
  have hassign : ∀ d, assignments d user type = d.rowsOf user.id type :=
    fun d => if_neg (by simp [hrole])
  -- Without assignments at the start everything passes then.
  by_cases hnone : assignments db user type = []
  · exact .inl fun _ _ => .inl hnone
  · have hguard := hstays hnone
    rw [hassign] at hnone
    obtain ⟨hleft, hfrom⟩ := rowsOf_run hnone hguard hexec
    cases hpart : r.part rt type with
    | none =>
      refine .inl fun part hmem => ?_
      rw [hpart] at hmem
      exact absurd hmem (Option.not_mem_none part)
    | some part =>
      rcases h part hpart with hempty | ⟨row, hrow, hcompany, hkey⟩
      · rw [hassign] at hempty
        exact absurd hempty hleft
      -- The row that lets the resource through was there before, or a submission named it.
      · rw [hassign] at hrow
        rcases hfrom row hrow with
          hstart | ⟨pre, u, submission, post, before, heq, hbefore, hid, hnames⟩
        · refine .inl fun part' hmem => .inr ⟨row, ?_, ?_⟩
          · rwa [hassign]
          · rw [hpart] at hmem
            obtain rfl := Option.some.inj hmem
            exact ⟨hcompany, hkey⟩
        · rw [hcompany] at hnames
          exact .inr ⟨part, rfl, pre, u, submission, post, before, heq, hbefore, hid,
            hnames.weaken hkey⟩

/-- In every run whose steps leave the user an assignment of each type that restricts, whatever
the user sees at the end (companies, ledgers, vouchers) the user saw at the start or a call has
named. Type by type: what the assignments of one type let through, they let through before or
it was named. -/
theorem tally_restrictions_fail_closed (rt : Runtime) (user : UserAccount)
    (hrole : hasRole user.role .superAdmin = false) (db db' : TallyDb) (as : List TallyAction)
    (hexec : exec (tallyMachine rt) db as = some db') :
    (StaysRestricted rt user .company db as → ∀ company ∈ scopedCompanies db' user,
      company ∈ scopedCompanies db user ∨ NamedInRun rt user.id .company (company.id, none) db as) ∧
    (StaysRestricted rt user .company db as →
      ∀ companyId, canAccessCompany db' user companyId = true →
      canAccessCompany db user companyId = true ∨
      NamedInRun rt user.id .company (companyId, none) db as) ∧
    (StaysRestricted rt user .ledger db as →
      ∀ companyId ledgers, ∀ l ∈ filterLedgers rt db' user companyId ledgers,
      l ∈ filterLedgers rt db user companyId ledgers ∨
        NamedInRun rt user.id .ledger (companyId, some (resourceKey rt l.name)) db as) ∧
    (StaysRestricted rt user .ledger db as → StaysRestricted rt user .tallyUser db as →
      ∀ companyId vouchers, ∀ v ∈ filterSalesVouchers rt db' user companyId vouchers,
        v ∈ filterSalesVouchers rt db user companyId vouchers ∨
          NamedInRun rt user.id .ledger (companyId, some (resourceKey rt v.partyLedger)) db as ∨
          NamedInRun rt user.id .tallyUser (companyId, some (resourceKey rt v.tallyUser)) db as) ∧
    ∀ type, StaysRestricted rt user type db as → ∀ r, Passes rt db' user type r →
      Passes rt db user type r ∨
      ∃ part ∈ r.part rt type, NamedInRun rt user.id type part db as := by
  have hcompanies : StaysRestricted rt user .company db as → ∀ companyId,
      canAccessCompany db' user companyId = true → canAccessCompany db user companyId = true ∨
        NamedInRun rt user.id .company (companyId, none) db as := by
    intro hstays companyId h
    rcases passes_run hrole hstays hexec (canAccessCompany_iff.mp h) with
      hbefore | ⟨part, hpart, hnamed⟩
    · exact .inl (canAccessCompany_iff.mpr hbefore)
    · obtain rfl := Option.some.inj hpart
      exact .inr hnamed
  refine ⟨?_, hcompanies, ?_, ?_, fun type hstays r h => passes_run hrole hstays hexec h⟩
  · intro hstays company h
    obtain ⟨hstored, hseen⟩ := mem_scopedCompanies.mp h
    rcases hcompanies hstays company.id hseen with hbefore | hnamed
    · exact .inl (mem_scopedCompanies.mpr ⟨companies_run hexec company hstored, hbefore⟩)
    · exact .inr hnamed
  -- Ledgers, then vouchers: a filter lets through what the assignments of its types do.
  · intro hstays companyId ledgers l h
    obtain ⟨hl, hpasses⟩ := mem_filterLedgers.mp h
    rcases passes_run hrole hstays hexec hpasses with hbefore | ⟨part, hpart, hnamed⟩
    · exact .inl (mem_filterLedgers.mpr ⟨hl, hbefore⟩)
    · obtain rfl := Option.some.inj hpart
      exact .inr hnamed
  · intro hledgers husers companyId vouchers v h
    obtain ⟨hv, hparty, huser⟩ := mem_filterSalesVouchers.mp h
    -- A voucher passes two filters; either may pass it by a new row.
    rcases passes_run hrole hledgers hexec hparty with hparty | ⟨part, hpart, hnamed⟩
    · rcases passes_run hrole husers hexec huser with huser | ⟨part, hpart, hnamed⟩
      · exact .inl (mem_filterSalesVouchers.mpr ⟨hv, hparty, huser⟩)
      · obtain rfl := Option.some.inj hpart
        exact .inr (.inr hnamed)
    · obtain rfl := Option.some.inj hpart
      exact .inr (.inl hnamed)

/-- A clerk who may see the company South and one ledger of the company North. -/
def salesClerk : UserAccount := ⟨⟨3, py "asha"⟩, py "x", py "sales", true, false, 0, none⟩

def northAndSouth : TallyDb where
  companies := [⟨1, py "North", true⟩, ⟨2, py "South", false⟩, ⟨3, py "West", false⟩]
  access := [⟨3, 2, .company, py "2", py "South"⟩, ⟨3, 1, .ledger, py "alpha", py "Alpha"⟩]
  ledgers := [⟨7, 1, py "North", py "north", py "alpha", py "alpha", [], []⟩,
    ⟨8, 1, py "North", py "north", py "beta", py "beta", [], []⟩]
  vouchers := []

/-- A ledger of the company North. -/
def betaLedger : TallyLedger := ⟨py "beta", [], []⟩

/-- A form that was opened before the ledger 9 left the cache. -/
def staleSubmission : AccessSubmission := ⟨[], [9], []⟩

/-- The clerk's only company is deleted, and the clerk sees all of them; a call submits one
ledger, which is gone, and the clerk sees every ledger. -/
theorem restriction_lifted :
    hasRole salesClerk.role .superAdmin = false ∧
    (∃ db, exec (tallyMachine .plain) northAndSouth [.deleteCompany 2] = some db ∧
      assignments northAndSouth salesClerk .company ≠ [] ∧
      canAccessCompany northAndSouth salesClerk 1 = false ∧
      canAccessCompany db salesClerk 1 = true ∧
      ¬ NamedInRun .plain salesClerk.id .company (1, none) northAndSouth [.deleteCompany 2]) ∧
    ∃ db, exec (tallyMachine .plain) northAndSouth
        [.replaceAccess salesClerk staleSubmission] = some db ∧
      assignments northAndSouth salesClerk .ledger ≠ [] ∧
      filterLedgers .plain northAndSouth salesClerk 1 [betaLedger] = [] ∧
      filterLedgers .plain db salesClerk 1 [betaLedger] = [betaLedger] ∧
      ¬ NamedInRun .plain salesClerk.id .ledger (1, some (resourceKey .plain betaLedger.name))
        northAndSouth
        [.replaceAccess salesClerk staleSubmission] := by
  refine ⟨by decide +kernel, ⟨_, rfl, by decide +kernel, by decide +kernel, by decide +kernel, ?_⟩,
    ⟨_, rfl, by decide +kernel, by decide +kernel, by decide +kernel, ?_⟩⟩
  · rintro ⟨pre, user, submission, post, before, heq, -⟩
    cases pre with
    | nil => simp at heq
    | cons a pre => simp at heq
  · rintro ⟨pre, user, submission, post, before, heq, hbefore, -, hnames⟩
    cases pre with
    | nil =>
      obtain rfl := Option.some.inj hbefore
      obtain ⟨⟨rfl, rfl⟩, -⟩ : (salesClerk = user ∧ staleSubmission = submission) ∧ [] = post := by
        simpa using heq
      obtain ⟨row, hrow, hid, -⟩ := hnames
      revert row
      decide +kernel
    | cons a pre => simp at heq

/-- The clerk may also see the vouchers of one Tally user only. -/
def restrictedClerk : TallyDb :=
  { northAndSouth with
    access := northAndSouth.access ++ [⟨3, 1, .tallyUser, py "ravi", py "Ravi"⟩] }

/-- The company West is deleted, and a call gives the clerk the ledger Beta instead of Alpha and
the Tally user Meena instead of Ravi. -/
def restrictedDay : List TallyAction :=
  [.deleteCompany 3, .replaceAccess salesClerk ⟨[2], [8, 9], [py "1:Meena"]⟩]

private theorem restrictedDay_stays (type : TallyResourceType) :
    StaysRestricted .plain salesClerk type restrictedClerk restrictedDay := by
  refine fun _ => ⟨fun _ => ?_, fun t ht => ⟨fun _ _ _ => ?_, fun _ _ => trivial⟩⟩
  · cases type <;> decide +kernel
  · obtain rfl := Option.some.inj ht
    cases type with
    | company => exact ⟨2, by decide, ⟨2, py "South", false⟩, by decide +kernel, rfl⟩
    | ledger =>
      exact ⟨1, ⟨8, 1, py "North", py "north", py "beta", py "beta", [],
        []⟩, by decide +kernel, by decide,
        rfl, fun _ hk => absurd hk (Option.not_mem_none _)⟩
    | tallyUser =>
      exact ⟨1, py "1:Meena", List.mem_singleton_self _, py "Meena", by decide +kernel,
        fun _ hk => absurd hk (Option.not_mem_none _)⟩

/-- The clerk loses Alpha and Ravi, and sees nothing that the call does not name. -/
theorem tally_restrictions_fail_closed_clerk :
    ∃ db, exec (tallyMachine .plain) restrictedClerk restrictedDay = some db ∧
      (∀ company ∈ scopedCompanies db salesClerk,
        company ∈ scopedCompanies restrictedClerk salesClerk ∨
        NamedInRun .plain salesClerk.id .company (company.id, none) restrictedClerk restrictedDay) ∧
      (∀ ledgers, ∀ l ∈ filterLedgers .plain db salesClerk 1 ledgers,
        l ∈ filterLedgers .plain restrictedClerk salesClerk 1 ledgers ∨
          NamedInRun .plain salesClerk.id .ledger (1, some (resourceKey .plain l.name))
            restrictedClerk
            restrictedDay) ∧
      (∀ vouchers, ∀ v ∈ filterSalesVouchers .plain db salesClerk 1 vouchers,
        v ∈ filterSalesVouchers .plain restrictedClerk salesClerk 1 vouchers ∨
          NamedInRun .plain salesClerk.id .ledger (1, some (resourceKey .plain v.partyLedger))
            restrictedClerk
            restrictedDay ∨
          NamedInRun .plain salesClerk.id .tallyUser (1, some (resourceKey .plain v.tallyUser))
            restrictedClerk
            restrictedDay) ∧
      filterLedgers .plain db salesClerk 1 [betaLedger] = [betaLedger] := by
  obtain ⟨hcompanies, -, hledgers, hvouchers, -⟩ := tally_restrictions_fail_closed .plain salesClerk
    (by decide +kernel) restrictedClerk _ restrictedDay rfl
  exact ⟨_, rfl, hcompanies (restrictedDay_stays .company),
    hledgers (restrictedDay_stays .ledger) 1,
    hvouchers (restrictedDay_stays .ledger) (restrictedDay_stays .tallyUser) 1, by decide +kernel⟩

end SetuoraLite
