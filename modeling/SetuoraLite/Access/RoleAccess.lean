import SetuoraLite.Lib.JsonSpaced
import SetuoraLite.Lib.Python
import SetuoraLite.Store.Models

/-!
# Roles and the access matrix

A user's roles are one text column, the role values joined by commas, and every
reader takes it apart again. What a role may do is a matrix of settings: the
catalogue of rows with their defaults is code, the saved choices are one JSON text
in the settings table, and reading them back puts the locked cells right.
-/

namespace SetuoraLite

open Lib

/-! ## Roles -/

inductive Role
  | superAdmin | admin | directors | warehouseManager | purchase | sales | auditor
deriving DecidableEq

def Role.value : Role → PyStr
  | .superAdmin => py "super_admin"
  | .admin => py "admin"
  | .directors => py "directors"
  | .warehouseManager => py "warehouse_manager"
  | .purchase => py "purchase"
  | .sales => py "sales"
  | .auditor => py "auditor"

/-- The member's name. -/
def Role.name : Role → PyStr
  | .superAdmin => py "SUPER_ADMIN"
  | .admin => py "ADMIN"
  | .directors => py "DIRECTORS"
  | .warehouseManager => py "WAREHOUSE_MANAGER"
  | .purchase => py "PURCHASE"
  | .sales => py "SALES"
  | .auditor => py "AUDITOR"

/-- `list(Role)`. -/
def Role.all : List Role :=
  [.superAdmin, .admin, .directors, .warehouseManager, .purchase, .sales, .auditor]

theorem Role.mem_all (role : Role) : role ∈ Role.all := by
  cases role <;> decide

/-- The role that a part of a role text stands for: `Role.ADMIN`, `ADMIN` and `admin`
are one role, any other text is none. -/
def Role.ofToken (part : PyStr) : Option Role :=
  let token := strip part
  let token := if (py "Role.").isPrefixOf token then token.drop 5 else token
  (Role.all.find? fun role => role.name = token).or
    (Role.all.find? fun role => role.value = token)

/-- `normalize_role_values` of a list of texts. -/
def normalizeRoleValues (items : List PyStr) : List Role :=
  ((items.flatMap fun item => item.splitOn (cp ',')).filterMap Role.ofToken).eraseDups

/-- `serialize_role_values`. -/
def serializeRoleValues (items : List PyStr) : PyStr :=
  joinWith (py ",")
    ((Role.all.filter fun role => role ∈ normalizeRoleValues items).map Role.value)

/-- `has_role` of a role text. -/
def hasRole (value : PyStr) (role : Role) : Bool := role ∈ normalizeRoleValues [value]

/-- `has_any_role` of a role text. -/
def hasAnyRole (value : PyStr) (roles : List Role) : Bool := roles.any (hasRole value)

theorem Role.ofToken_value (role : Role) : Role.ofToken role.value = some role := by
  cases role <;> decide +kernel

theorem Role.comma_free (role : Role) : cp ',' ∉ role.value := by
  cases role <;> decide +kernel

/-- The roles that a user gets are the roles of the form that created it. -/
theorem hasRole_serializeRoleValues (items : List PyStr) (role : Role) :
    hasRole (serializeRoleValues items) role = true ↔ role ∈ normalizeRoleValues items := by
  have hparts : ∀ roles : List Role, roles ≠ [] →
      (joinWith (py ",") (roles.map Role.value)).splitOn (cp ',') = roles.map Role.value := by
    intro roles hne
    apply List.splitOn_intercalate
    · intro part hpart
      obtain ⟨r, -, rfl⟩ := List.mem_map.mp hpart
      exact r.comma_free
    · simpa using hne
  have htokens : ∀ roles : List Role, (roles.map Role.value).filterMap Role.ofToken = roles := by
    intro roles
    simp [List.filterMap_map, Role.ofToken_value]
  have hmem : role ∈ Role.all.filter (fun r => r ∈ normalizeRoleValues items) ↔
      role ∈ normalizeRoleValues items := by
    simp [Role.mem_all]
  unfold hasRole serializeRoleValues
  generalize hroles : Role.all.filter (fun r => r ∈ normalizeRoleValues items) = roles at hmem ⊢
  rw [decide_eq_true_iff, ← hmem, normalizeRoleValues, List.mem_eraseDups]
  by_cases hne : roles = []
  · -- No role: the text is empty and names none.
    subst hne
    have hempty : ([joinWith (py ",") (([] : List Role).map Role.value)].flatMap
        fun item => item.splitOn (cp ',')).filterMap Role.ofToken = [] := by
      decide +kernel
    rw [hempty]
  · rw [List.flatMap_singleton, hparts roles hne, htokens]

/-! ## The catalogue -/

/-- The three option lists of a row. -/
inductive AccessOptions
  | page | action | data
deriving DecidableEq

/-- The values of `PAGE_OPTIONS`, `ACTION_OPTIONS` and `DATA_OPTIONS`. -/
def AccessOptions.values : AccessOptions → List PyStr
  | .page => [py "shown", py "hidden"]
  | .action => [py "edit", py "yes", py "no"]
  | .data => [py "edit", py "view", py "workflow", py "no"]

/-- What a role without the right has. -/
def AccessOptions.denied : AccessOptions → PyStr
  | .page => py "hidden"
  | _ => py "no"

/-- `DENY_VALUES`. -/
def denyValues : List PyStr := [py "hidden", py "no"]

/-- `AccessRowDefinition`, without the texts that are only shown. -/
structure AccessRowDefinition where
  key : PyStr
  defaults : Role → PyStr
  options : AccessOptions

/-- `_defaults`. -/
def defaults (options : AccessOptions) (allowedValue : PyStr) (allowedRoles : List Role) :
    Role → PyStr :=
  fun role =>
    if role = .superAdmin ∨ role ∈ allowedRoles then allowedValue else options.denied

/-- `_all_operational`. -/
def allOperational (options : AccessOptions) (value : PyStr) : Role → PyStr :=
  defaults options value [.admin, .warehouseManager, .purchase, .sales, .auditor]

/-- `_admin`. -/
def adminOnly (options : AccessOptions) (value : PyStr) : Role → PyStr :=
  defaults options value [.admin]

/-- Pages shown in navigation. -/
def pageRows : List AccessRowDefinition :=
  [⟨py "page_dashboard", allOperational .page (py "shown"), .page⟩,
   ⟨py "page_batches", allOperational .page (py "shown"), .page⟩,
   ⟨py "page_warehouse", defaults .page (py "shown") [.admin, .warehouseManager, .auditor], .page⟩,
   ⟨py "page_serials", allOperational .page (py "shown"), .page⟩,
   ⟨py "page_reports", defaults .page (py "shown") [.admin, .directors], .page⟩,
   ⟨py "page_stock_movement", defaults .page (py "shown") [.admin, .warehouseManager], .page⟩,
   ⟨py "page_tally_check", adminOnly .page (py "shown"), .page⟩,
   ⟨py "page_barcodes", defaults .page (py "shown") [.admin, .purchase], .page⟩,
   ⟨py "page_admin_menu", adminOnly .page (py "shown"), .page⟩,
   ⟨py "page_products", adminOnly .page (py "shown"), .page⟩,
   ⟨py "page_expiry", adminOnly .page (py "shown"), .page⟩,
   ⟨py "page_settings", adminOnly .page (py "shown"), .page⟩,
   ⟨py "page_role_access", defaults .page (py "shown") [], .page⟩,
   ⟨py "page_maintenance", adminOnly .page (py "shown"), .page⟩,
   ⟨py "page_users", adminOnly .page (py "shown"), .page⟩]

/-- Actions allowed by role. -/
def actionRows : List AccessRowDefinition :=
  [⟨py "batch_purchase", defaults .action (py "edit") [.admin, .purchase], .action⟩,
   ⟨py "batch_sale", defaults .action (py "edit") [.admin, .sales], .action⟩,
   ⟨py "batch_audit", defaults .action (py "edit") [.admin, .auditor], .action⟩,
   ⟨py "audit_assignment_manage", fun role =>
     if role = .auditor then py "view"
         else defaults .data (py "edit") [.admin, .directors] role, .data⟩,
   ⟨py "batch_sales_return", defaults .action (py "edit") [.admin, .sales], .action⟩,
   ⟨py "batch_purchase_return", defaults .action (py "edit") [.admin, .purchase], .action⟩,
   ⟨py "batch_issue", adminOnly .action (py "edit"), .action⟩,
   ⟨py "stock_relocation",
     defaults .action (py "edit") [.admin, .warehouseManager, .auditor], .action⟩,
   ⟨py "location_manage", defaults .action (py "edit") [.admin, .warehouseManager], .action⟩,
   ⟨py "manual_serial_entry", adminOnly .action (py "edit"), .action⟩,
   ⟨py "fefo_pick", defaults .action (py "edit") [.admin, .purchase, .sales], .action⟩,
   ⟨py "tally_xml", adminOnly .action (py "yes"), .action⟩,
   ⟨py "tally_excel_export", adminOnly .action (py "yes"), .action⟩,
   ⟨py "tally_sync_retry", adminOnly .action (py "yes"), .action⟩,
   ⟨py "product_create", adminOnly .action (py "edit"), .action⟩,
   ⟨py "barcode_assignment", defaults .action (py "edit") [.admin, .purchase], .action⟩,
   ⟨py "barcode_replacement", adminOnly .action (py "edit"), .action⟩,
   ⟨py "reports_export", adminOnly .action (py "yes"), .action⟩,
   ⟨py "stock_movement_export", defaults .action (py "yes") [.admin, .warehouseManager], .action⟩,
   ⟨py "tally_check_edit", adminOnly .action (py "edit"), .action⟩,
   ⟨py "settings_edit", adminOnly .action (py "edit"), .action⟩,
   ⟨py "role_access_edit", defaults .action (py "edit") [], .action⟩,
   ⟨py "users_manage", adminOnly .action (py "edit"), .action⟩,
   ⟨py "backup_download", adminOnly .action (py "yes"), .action⟩,
   ⟨py "database_reset", defaults .action (py "yes") [], .action⟩]

/-- Data access and modification. -/
def dataRows : List AccessRowDefinition :=
  [⟨py "dashboard_data", allOperational .data (py "view"), .data⟩,
   ⟨py "product_master", allOperational .data (py "view"), .data⟩,
   ⟨py "serial_data", allOperational .data (py "view"), .data⟩,
   ⟨py "label_files", defaults .data (py "view") [.admin, .purchase, .sales, .auditor], .data⟩,
   ⟨py "batch_list", allOperational .data (py "view"), .data⟩,
   ⟨py "purchase_data", defaults .data (py "workflow") [.admin, .purchase], .data⟩,
   ⟨py "sales_data", defaults .data (py "workflow") [.admin, .sales], .data⟩,
   ⟨py "audit_data", defaults .data (py "workflow") [.admin, .auditor], .data⟩,
   ⟨py "issue_data", adminOnly .data (py "edit"), .data⟩,
   ⟨py "warehouse_data", defaults .data (py "view") [.admin, .warehouseManager, .auditor], .data⟩,
   ⟨py "reports_data", defaults .data (py "view") [.admin, .directors], .data⟩,
   ⟨py "stock_movement_data", defaults .data (py "view") [.admin, .warehouseManager], .data⟩,
   ⟨py "expiry_analytics", adminOnly .data (py "view"), .data⟩,
   ⟨py "tally_settings", adminOnly .data (py "edit"), .data⟩,
   ⟨py "tally_attempts", adminOnly .data (py "view"), .data⟩,
   ⟨py "user_accounts", adminOnly .data (py "edit"), .data⟩,
   ⟨py "backup_data", adminOnly .data (py "view"), .data⟩]

/-- The rows of `access_section_definitions`. -/
def accessRowDefinitions : List AccessRowDefinition := pageRows ++ actionRows ++ dataRows

/-- `SUPER_ADMIN_ONLY_KEYS`. -/
def superAdminOnlyKeys : List PyStr :=
  [py "page_role_access", py "role_access_edit", py "database_reset"]

/-- `ADMIN_ONLY_KEYS`. -/
def adminOnlyKeys : List PyStr := [py "tally_excel_export"]

/-! ## The matrix -/

/-- A configuration: a row of the catalogue has a value for each role. -/
abbrev AccessConfig := List (PyStr × (Role → PyStr))

/-- `default_role_access_config`. -/
def defaultRoleAccessConfig : AccessConfig :=
  accessRowDefinitions.map fun row => (row.key, row.defaults)

/-- The value that the raw configuration gives a role in a row, the default where it
gives none that the row knows. -/
def submittedValue (rt : Runtime) (row : AccessRowDefinition) (rowValues : Json)
    (role : Role) : PyStr :=
  match rowValues with
  | .obj values =>
    let value := strip (((dictGet role.value values).getD (.str [])).pyStr rt)
    if role ≠ .superAdmin ∧ value ∈ row.options.values then value else row.defaults role
  | _ => row.defaults role

/-- One row of `normalize_role_access_config`: the locked cells over the submitted ones. -/
def normalizeRow (rt : Runtime) (row : AccessRowDefinition) (rowValues : Json)
    (role : Role) : PyStr :=
  if row.key ∈ adminOnlyKeys then row.defaults role
  else if role = .superAdmin then row.defaults .superAdmin
  else if row.key ∈ superAdminOnlyKeys then row.options.denied
  else submittedValue rt row rowValues role

/-- `normalize_role_access_config`. -/
def normalizeRoleAccessConfig (rt : Runtime) (rawConfig : Json) : AccessConfig :=
  let raw := match rawConfig with
    | .obj rows => rows
    | _ => []
  accessRowDefinitions.map fun row => (row.key, normalizeRow rt row (getItem raw row.key))

/-- `SETTING_KEY`. -/
def roleAccessSettingKey : PyStr := py "role_access_config"

/-- `get_role_access_config`, on the settings table. It catches what `json.loads` raises on a
text that is no JSON, not the `RecursionError` on one that nests too deep. -/
def getRoleAccessConfig (rt : Runtime) (settings : List Setting) :
    Except DecodeError AccessConfig :=
  match lookup (·.key) roleAccessSettingKey settings with
  | none => .ok defaultRoleAccessConfig
  | some row =>
    if row.value = [] then .ok defaultRoleAccessConfig
    else
      match decodeWithin (some rt.jsonLevels) row.value with
      | .ok parsed => .ok (normalizeRoleAccessConfig rt parsed)
      | .error .tooDeep => .error .tooDeep
      | .error _ => .ok defaultRoleAccessConfig

/-- A configuration as the dict of dicts it is in the source. -/
def AccessConfig.toDict (config : AccessConfig) : List (PyStr × Json) :=
  config.map fun row => (row.1, .obj (Role.all.map fun role => (role.value, .str (row.2 role))))

/-- `json.dumps(config, sort_keys=True)`; every text in it is ASCII. -/
def AccessConfig.text (config : AccessConfig) : PyStr :=
  spacedObject ((Json.sortMembers config.toDict).map fun row =>
    (row.1, match row.2 with
      | .obj values => spacedObject (values.map fun e => (e.1, match e.2 with
        | .str value => strText value
        | _ => []))
      | _ => []))

/-- `config.setdefault(row_key, {}).update(row_values)`. -/
def mergeRow (config : List (PyStr × Json)) (rowKey : PyStr) (rowValues : List (PyStr × PyStr)) :
    List (PyStr × Json) :=
  let stored := match dictGet rowKey config with
    | some (.obj values) => values
    | _ => []
  dictSet rowKey (.obj (dictUpdate stored (rowValues.map fun e => (e.1, .str e.2)))) config

/-- `row.value = value`, or a new row. -/
def putSetting (key value : PyStr) (settings : List Setting) : List Setting :=
  match lookup (·.key) key settings with
  | none => settings ++ [⟨key, value⟩]
  | some _ => modifyRow (·.key) key (fun row => { row with value := value }) settings

/-- The submitted rows over the stored ones, in the order of the dict. -/
def mergeRows (config : List (PyStr × Json)) (rows : List (PyStr × List (PyStr × PyStr))) :
    List (PyStr × Json) :=
  rows.foldl (fun config row => mergeRow config row.1 row.2) config

/-- `save_role_access_config`, on the settings table. -/
def saveRoleAccessConfig (rt : Runtime) (submitted : List (PyStr × List (PyStr × PyStr)))
    (settings : List Setting) : Except DecodeError (List Setting) :=
  (getRoleAccessConfig rt settings).map fun config =>
    putSetting roleAccessSettingKey
      (normalizeRoleAccessConfig rt (.obj (mergeRows config.toDict submitted))).text settings

/-! ## The form -/

/-- The text before the first `__` and the text after it. -/
def splitUnderscores : PyStr → Option (PyStr × PyStr)
  | [] => none
  | c :: cs =>
    if (py "__").isPrefixOf (c :: cs) then some ([], cs.drop 1)
    else (splitUnderscores cs).map fun parts => (c :: parts.1, parts.2)

/-- A value in the dict of dicts that the form builds. -/
def setCell (rowKey roleKey value : PyStr) :
    List (PyStr × List (PyStr × PyStr)) → List (PyStr × List (PyStr × PyStr))
  | [] => [(rowKey, [(roleKey, value)])]
  | row :: config =>
    if row.1 = rowKey then
      (row.1, row.2.filter (fun cell => cell.1 ≠ roleKey) ++ [(roleKey, value)]) :: config
    else row :: setCell rowKey roleKey value config

/-- `config_from_form`. -/
def configFromForm (items : List (PyStr × PyStr)) : List (PyStr × List (PyStr × PyStr)) :=
  items.foldl (fun config item =>
    if (py "access__").isPrefixOf item.1 = false then config
    else
      match splitUnderscores (item.1.drop 8) with
      | none => config
      | some (rowKey, roleKey) =>
        match accessRowDefinitions.find? fun row => row.key = rowKey with
        | none => config
        | some row =>
          if roleKey = Role.superAdmin.value then config
          else if strip item.2 ∈ row.options.values
            then setCell rowKey roleKey (strip item.2) config
          else config) []

/-! ## Questions to the matrix -/

/-- `_configured_access_values`. -/
def configuredAccessValues (config : AccessConfig) (role accessKey : PyStr) : List PyStr :=
  (normalizeRoleValues [role]).map fun r =>
    if r = .superAdmin then py "edit"
    else ((config.find? fun row => row.1 = accessKey).map fun row => row.2 r).getD (py "no")

/-- `configured_role_has_access` without a list of allowed values. -/
def configuredRoleHasAccess (config : AccessConfig) (role accessKey : PyStr) : Bool :=
  (configuredAccessValues config role accessKey).any fun value => value ∉ denyValues

end SetuoraLite
