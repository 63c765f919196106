import SetuoraLite.Access.RoleAccess

/-!
# Saving the access matrix

Saves one after the other, over whatever text the settings table holds. A save merges the
submitted cells over the matrix that it reads, normalises, and writes the text back;
`decode_text` is the round trip of that text. So after any saves the matrix that is read is
normal: the locked cells are right, every cell has a value its row knows, and a valid value that
was submitted stays until its cell is submitted again.

What stops this is the reading itself: `json.loads` raises a `RecursionError` on a text that
nests too deep, and `get_role_access_config` catches `TypeError` and `ValueError` only.
-/

namespace SetuoraLite

open Lib

/-! ## Reading and saving -/

/-- What is submitted: a dict of dicts, from row keys to role values to values. -/
structure RoleAccessSubmission where
  rows : List (PyStr × List (PyStr × PyStr))
  rowKeys : (rows.map Prod.fst).Nodup
  roleKeys : ∀ row ∈ rows, (row.2.map Prod.fst).Nodup

/-- `submitted[row_key][role_key]`. -/
def RoleAccessSubmission.cell (submitted : RoleAccessSubmission) (rowKey roleKey : PyStr) :
    Option PyStr :=
  (lookup Prod.fst rowKey submitted.rows).bind fun row =>
    (lookup Prod.fst roleKey row.2).map Prod.snd

/-- Saves after each other; one that raises leaves the settings as they are. -/
def storeAll (rt : Runtime) (saves : List RoleAccessSubmission) (settings : List Setting) :
    List Setting :=
  saves.foldl (fun settings submitted =>
    match saveRoleAccessConfig rt submitted.rows settings with
    | .ok settings => settings
    | .error _ => settings) settings

/-- The value of a cell. -/
def AccessConfig.value (config : AccessConfig) (rowKey : PyStr) (role : Role) : Option PyStr :=
  (lookup Prod.fst rowKey config).map fun row => row.2 role

/-! ## The catalogue -/

/-- No two rows of the table have one key. -/
theorem accessRowKeys_nodup : (accessRowDefinitions.map (·.key)).Nodup := by decide +kernel

/-- No two roles have one name. -/
theorem roleValues_nodup : (Role.all.map Role.value).Nodup := by decide +kernel

/-- The values that a cell may have carry no white space around them. -/
theorem strip_option {options : AccessOptions} {value : PyStr} (h : value ∈ options.values) :
    strip value = value := by
  have hall : ∀ v ∈ options.values, strip v = v := by
    cases options <;> decide
  exact hall value h

/-- Denying access is one of the values. -/
theorem denied_mem (options : AccessOptions) : options.denied ∈ options.values := by
  cases options <;> decide

/-- Every default is one of the values of its row. -/
theorem defaults_mem {row : AccessRowDefinition} (h : row ∈ accessRowDefinitions) (role : Role) :
    row.defaults role ∈ row.options.values := by
  have hall : ∀ row ∈ accessRowDefinitions, ∀ role ∈ Role.all,
      row.defaults role ∈ row.options.values := by
    decide +kernel
  exact hall row h role role.mem_all

/-- A row for super admins only denies every other role by default. -/
theorem defaults_superAdminOnly {row : AccessRowDefinition} (h : row ∈ accessRowDefinitions)
    (hkey : row.key ∈ superAdminOnlyKeys) {role : Role} (hrole : role ≠ .superAdmin) :
    row.defaults role = row.options.denied := by
  have hall : ∀ row ∈ accessRowDefinitions, row.key ∈ superAdminOnlyKeys →
      ∀ role ∈ Role.all, role ≠ .superAdmin →
      row.defaults role = row.options.denied := by
    decide +kernel
  exact hall row h hkey role role.mem_all hrole

/-- A row is locked for one reason only. -/
theorem superAdminOnly_not_adminOnly {key : PyStr} (h : key ∈ superAdminOnlyKeys) :
    key ∉ adminOnlyKeys := by
  have hall : ∀ key ∈ superAdminOnlyKeys, key ∉ adminOnlyKeys := by decide +kernel
  exact hall key h

/-! ## Normal matrices -/

section Normal

variable {rt : Runtime} {raw : Json} {row : AccessRowDefinition} {role : Role}

/-- The rows of the raw configuration. -/
def rawRows : Json → List (PyStr × Json)
  | .obj rows => rows
  | _ => []

/-- Row by row. -/
theorem normalize_eq (rt : Runtime) (raw : Json) : normalizeRoleAccessConfig rt raw =
    accessRowDefinitions.map fun row =>
        (row.key, normalizeRow rt row (getItem (rawRows raw) row.key)) := by
  cases raw <;> rfl

/-- A normalized table has the rows of the definitions, in their order. -/
theorem keys_normalize (rt : Runtime) (raw : Json) :
    (normalizeRoleAccessConfig rt raw).map Prod.fst = accessRowDefinitions.map (·.key) := by
  rw [normalize_eq, List.map_map]
  rfl

/-- A cell of a normalized table. -/
theorem value_normalize (h : row ∈ accessRowDefinitions) :
    (normalizeRoleAccessConfig rt raw).value row.key role
    = some (normalizeRow rt row (getItem (rawRows raw) row.key) role) := by
  have hmem : (row.key, normalizeRow rt row (getItem (rawRows raw) row.key)) ∈
      normalizeRoleAccessConfig rt raw := by
    rw [normalize_eq]
    exact List.mem_map_of_mem h
  have hnodup : ((normalizeRoleAccessConfig rt raw).map Prod.fst).Nodup := by
    rw [keys_normalize]
    exact accessRowKeys_nodup
  unfold AccessConfig.value
  rw [lookup_of_mem hnodup hmem]
  rfl

/-- Whatever is submitted for a cell, one of its values is taken. -/
theorem submittedValue_mem (h : row ∈ accessRowDefinitions) (rowValues : Json) :
    submittedValue rt row rowValues role ∈ row.options.values := by
  unfold submittedValue
  split
  · dsimp only
    split
    next hvalid => exact hvalid.2
    next => exact defaults_mem h role
  · exact defaults_mem h role

/-- The default matrix is what a configuration without rows gives. -/
theorem normalize_empty (rt : Runtime) :
    normalizeRoleAccessConfig rt (.obj []) = defaultRoleAccessConfig := by
  rw [normalize_eq]
  unfold defaultRoleAccessConfig
  refine List.map_congr_left fun row hrow => ?_
  have hrowEq : normalizeRow rt row (getItem (rawRows (.obj [])) row.key) = row.defaults := by
    funext role
    unfold normalizeRow
    split
    · rfl
    · split
      next hsuper => rw [hsuper]
      next hsuper =>
        split
        next hkey => exact (defaults_superAdminOnly hrow hkey hsuper).symm
        next => rfl
  rw [hrowEq]

/-- The dict gives the cell a text. -/
def HoldsText (dict : List (PyStr × Json)) (rowKey : PyStr) (role : Role) (text : PyStr) : Prop :=
  ∃ values, dictGet rowKey dict = some (.obj values) ∧ dictGet role.value values = some (.str text)

/-- A cell that is not locked takes the submitted text where its row knows it. -/
theorem normalizeRow_of_holds {dict : List (PyStr × Json)} {text : PyStr}
    (h : HoldsText dict row.key role text) (hadmin : row.key ∉ adminOnlyKeys)
    (hsuper : row.key ∉ superAdminOnlyKeys) (hrole : role ≠ .superAdmin) :
    normalizeRow rt row (getItem dict row.key) role
      = if strip text ∈ row.options.values then strip text else row.defaults role := by
  obtain ⟨values, hvalues, htext⟩ := h
  have hitem : getItem dict row.key = .obj values := by
    unfold getItem
    rw [hvalues]
    rfl
  unfold normalizeRow
  rw [if_neg hadmin, if_neg hrole, if_neg hsuper, hitem]
  unfold submittedValue
  dsimp only
  rw [htext]
  show (if role ≠ .superAdmin ∧ strip text ∈ row.options.values then _ else _) = _
  by_cases hvalid : strip text ∈ row.options.values
  · rw [if_pos ⟨hrole, hvalid⟩, if_pos hvalid]
    rfl
  · rw [if_neg fun hboth => hvalid hboth.2, if_neg hvalid]

end Normal

/-! ## The stored text -/

section Stored

variable {rt : Runtime} {config : AccessConfig}

/-- The cells of a row of the dict. -/
def roleCells (values : Role → PyStr) : List (PyStr × Json) :=
  Role.all.map fun role => (role.value, .str (values role))

/-- Each role has one cell. -/
theorem roleCells_nodup (values : Role → PyStr) : (dictKeys (roleCells values)).Nodup := by
  unfold dictKeys roleCells
  rw [List.map_map]
  exact roleValues_nodup

/-- The cell of a role. -/
theorem dictGet_roleCells (values : Role → PyStr) (role : Role) :
    dictGet role.value (roleCells values) = some (.str (values role)) :=
  (dictGet_eq_some_iff (roleCells_nodup values)).mpr (List.mem_map.mpr ⟨role, role.mem_all, rfl⟩)

/-- Each row is stored once. -/
theorem toDict_nodup (h : (config.map Prod.fst).Nodup) : (dictKeys config.toDict).Nodup := by
  unfold dictKeys AccessConfig.toDict
  rw [List.map_map]
  exact h

/-- A stored row. -/
theorem dictGet_toDict (h : (config.map Prod.fst).Nodup) {rowKey : PyStr} {values : Role → PyStr}
    (hmem : (rowKey, values) ∈ config) :
    dictGet rowKey config.toDict = some (.obj (roleCells values)) :=
  (dictGet_eq_some_iff (toDict_nodup h)).mpr (List.mem_map.mpr ⟨(rowKey, values), hmem, rfl⟩)

/-- The dict of a matrix holds its cells, also once it is sorted. -/
theorem toDict_holds (h : (config.map Prod.fst).Nodup) {rowKey text : PyStr} {role : Role}
    (hvalue : config.value rowKey role = some text) :
    HoldsText config.toDict rowKey role text ∧
      HoldsText (Json.sortMembers config.toDict) rowKey role text := by
  obtain ⟨entry, hentry, rfl⟩ := Option.map_eq_some_iff.mp hvalue
  obtain ⟨hmem, rfl⟩ := lookup_some hentry
  have hget : dictGet entry.1 config.toDict = some (.obj (roleCells entry.2)) :=
    dictGet_toDict h hmem
  refine ⟨⟨_, hget, dictGet_roleCells entry.2 role⟩, Json.sortMembers (roleCells entry.2), ?_, ?_⟩
  · rw [dictGet_sortMembers (toDict_nodup h), hget]
    rfl
  · rw [dictGet_sortMembers (roleCells_nodup entry.2), dictGet_roleCells]
    rfl

/-- The text of a cell, and of a row of cells. -/
def cellText : Json → PyStr
  | .str value => strText value
  | _ => []

/-- The text of a row. -/
def rowText : Json → PyStr
  | .obj values => spacedObject (values.map fun e => (e.1, cellText e.2))
  | _ => []

/-- `json.loads` reads the text of a matrix back, with the keys sorted. -/
theorem decode_text {levels inner innermost : Option Nat} (henter : enter levels = .ok inner)
    (henter' : enter inner = .ok innermost) (h : (config.map Prod.fst).Nodup) :
    decodeWithin levels config.text = .ok (.obj (Json.sortMembers config.toDict)) := by
  have hcell : ∀ values : Role →
      PyStr, ∀ e ∈ Json.sortMembers (roleCells values), ReadsAs innermost (cellText e.2) e.2 := by
    intro values e he
    obtain ⟨e', he', rfl⟩ := List.mem_map.mp ((Json.sortMembers_perm _).mem_iff.mp he)
    obtain ⟨role, -, rfl⟩ := List.mem_map.mp he'
    exact readsAs_strText (values role)
  have hrow : ∀ e ∈ Json.sortMembers config.toDict, ReadsAs inner (rowText e.2) e.2 := by
    intro e he
    obtain ⟨e', he', rfl⟩ := List.mem_map.mp ((Json.sortMembers_perm _).mem_iff.mp he)
    obtain ⟨entry, -, rfl⟩ := List.mem_map.mp he'
    show ReadsAs _ (rowText (.obj (Json.sortMembers (roleCells entry.2))))
      (.obj (Json.sortMembers (roleCells entry.2)))
    have hkeys : (dictKeys (Json.sortMembers (roleCells entry.2))).Nodup :=
      (Json.dictKeys_sortMembers _).nodup_iff.mpr (roleCells_nodup entry.2)
    exact readsAs_dict henter' cellText (hcell entry.2) hkeys
  have hkeys : (dictKeys (Json.sortMembers config.toDict)).Nodup :=
    (Json.dictKeys_sortMembers _).nodup_iff.mpr (toDict_nodup h)
  have hdict : ReadsAs levels _ _ := readsAs_dict henter rowText hrow hkeys
  exact hdict.decode

end Stored

/-! ## What every matrix that is read keeps -/

/-- The matrix has the cells of the catalogue with values that their rows know, the locked cells
as the code wants them, and is normal. -/
structure SoundMatrix (rt : Runtime) (config : AccessConfig) : Prop where
  keys : config.map Prod.fst = accessRowDefinitions.map (·.key)
  valid : ∀ row ∈ accessRowDefinitions, ∀ role, ∃ value ∈ row.options.values,
    config.value row.key role = some value
  superAdmin : ∀ row ∈ accessRowDefinitions,
    config.value row.key .superAdmin = some (row.defaults .superAdmin)
  superAdminOnly : ∀ row ∈ accessRowDefinitions, row.key ∈ superAdminOnlyKeys →
    ∀ role, role ≠ .superAdmin →
    config.value row.key role = some row.options.denied
  adminOnly : ∀ row ∈ accessRowDefinitions, row.key ∈ adminOnlyKeys → ∀ role,
    config.value row.key role = some (row.defaults role)
  normal : normalizeRoleAccessConfig rt (.obj config.toDict) = config

section Guard

variable {rt : Runtime} {raw : Json} {row : AccessRowDefinition} {role : Role}

/-- Whatever was stored in a cell, one of its values is read. -/
theorem normalizeRow_mem (h : row ∈ accessRowDefinitions) (rowValues : Json) :
    normalizeRow rt row rowValues role ∈ row.options.values := by
  unfold normalizeRow
  split
  · exact defaults_mem h role
  · split
    · exact defaults_mem h .superAdmin
    · split
      · exact denied_mem row.options
      · exact submittedValue_mem h rowValues

/-- A dict that holds the cells of a normal matrix is normalised to that matrix. -/
theorem normalize_of_holds {dict : List (PyStr × Json)} (h : ∀ row ∈ accessRowDefinitions, ∀ role,
      HoldsText dict row.key role (normalizeRow rt row (getItem (rawRows raw) row.key) role)) :
    normalizeRoleAccessConfig rt (.obj dict) = normalizeRoleAccessConfig rt raw := by
  rw [normalize_eq, normalize_eq]
  refine List.map_congr_left fun row hrow => ?_
  have hcells : normalizeRow rt row (getItem dict row.key) =
      normalizeRow rt row (getItem (rawRows raw) row.key) := by
    funext role
    by_cases hlocked : row.key ∈ adminOnlyKeys ∨ role = .superAdmin ∨ row.key ∈ superAdminOnlyKeys
    · -- A locked cell is the same whatever the configuration.
      unfold normalizeRow
      split
      · rfl
      next hadmin =>
        split
        · rfl
        next hrole => rw [if_pos ((hlocked.resolve_left hadmin).resolve_left hrole),
            if_pos ((hlocked.resolve_left hadmin).resolve_left hrole)]
    · have hadmin : row.key ∉ adminOnlyKeys := fun hkey => hlocked (.inl hkey)
      have hrole : role ≠ .superAdmin := fun heq => hlocked (.inr (.inl heq))
      have hsuper : row.key ∉ superAdminOnlyKeys := fun hkey => hlocked (.inr (.inr hkey))
      have hvalid : normalizeRow rt row (getItem (rawRows raw) row.key) role ∈ row.options.values :=
        normalizeRow_mem hrow _
      rw [normalizeRow_of_holds (h row hrow role) hadmin hsuper hrole, strip_option hvalid,
        if_pos hvalid]
  show (row.key, normalizeRow rt row (getItem dict row.key)) = _
  rw [hcells]

/-- Each row is read once. -/
theorem nodup_normalize (rt : Runtime) (raw : Json) :
    ((normalizeRoleAccessConfig rt raw).map Prod.fst).Nodup := by
  rw [keys_normalize]
  exact accessRowKeys_nodup

/-- Normalising again changes nothing, of the matrix as it is or with its keys sorted. -/
theorem normalize_normal (rt : Runtime) (raw : Json) :
    normalizeRoleAccessConfig rt (.obj (normalizeRoleAccessConfig rt raw).toDict) =
        normalizeRoleAccessConfig rt raw ∧
    normalizeRoleAccessConfig rt (.obj (Json.sortMembers (normalizeRoleAccessConfig rt raw).toDict))
      = normalizeRoleAccessConfig rt raw :=
  ⟨normalize_of_holds fun _ hrow _ =>
      (toDict_holds (nodup_normalize rt raw) (value_normalize hrow)).1,
    normalize_of_holds fun _ hrow _ =>
      (toDict_holds (nodup_normalize rt raw) (value_normalize hrow)).2⟩

/-- Whatever was stored, the table that is read is sound. -/
theorem soundMatrix_normalize (rt : Runtime) (raw : Json) :
    SoundMatrix rt (normalizeRoleAccessConfig rt raw) where
  keys := keys_normalize rt raw
  valid row hrow role := ⟨_, normalizeRow_mem hrow _, value_normalize hrow⟩
  superAdmin row hrow := by
    rw [value_normalize hrow]
    unfold normalizeRow
    split
    · rfl
    · rw [if_pos rfl]
  superAdminOnly row hrow hkey role hrole := by
    rw [value_normalize hrow]
    unfold normalizeRow
    rw [if_neg (superAdminOnly_not_adminOnly hkey), if_neg hrole, if_pos hkey]
  adminOnly row hrow hkey role := by
    rw [value_normalize hrow]
    unfold normalizeRow
    rw [if_pos hkey]
  normal := (normalize_normal rt raw).1

/-- The defaults are sound. -/
theorem soundMatrix_default (rt : Runtime) : SoundMatrix rt defaultRoleAccessConfig := by
  rw [← normalize_empty rt]
  exact soundMatrix_normalize rt (.obj [])

/-- So is what a request loads. -/
theorem soundMatrix_load {settings : List Setting} {config : AccessConfig}
    (h : getRoleAccessConfig rt settings = .ok config) : SoundMatrix rt config := by
  unfold getRoleAccessConfig at h
  split at h
  · obtain rfl := Except.ok.inj h
    exact soundMatrix_default rt
  · split at h
    · obtain rfl := Except.ok.inj h
      exact soundMatrix_default rt
    · split at h
      · obtain rfl := Except.ok.inj h
        exact soundMatrix_normalize rt _
      · cases h
      · obtain rfl := Except.ok.inj h
        exact soundMatrix_default rt

end Guard

/-! ## One save -/

section Save

variable {rt : Runtime} {row : AccessRowDefinition} {role : Role}

/-- The submitted text of a cell in a list of rows. -/
def cellOf (rows : List (PyStr × List (PyStr × PyStr))) (rowKey roleKey : PyStr) : Option PyStr :=
  (lookup Prod.fst rowKey rows).bind fun row => (lookup Prod.fst roleKey row.2).map Prod.snd

/-- A dictionary of texts. -/
theorem dictGet_texts (cells : List (PyStr × PyStr)) (k : PyStr) :
    dictGet k (cells.map fun e => (e.1, .str e.2)) = (lookup Prod.fst k cells).map fun e =>
        .str e.2 := by
  induction cells with
  | nil => rfl
  | cons e cells ih =>
    simp only [List.map_cons, dictGet, lookup, List.find?_cons]
    by_cases hk : e.1 = k
    · simp [hk]
    · simp only [hk, if_false, decide_false]
      exact ih

/-- Merging gives each cell the submitted text, or leaves the one it had. -/
theorem mergeRows_holds {rowKey : PyStr} :
    ∀ {rows : List (PyStr × List (PyStr × PyStr))} {dict : List (PyStr × Json)}
    {text : PyStr}, (rows.map Prod.fst).Nodup → (∀ row ∈ rows, (row.2.map Prod.fst).Nodup) →
      HoldsText dict rowKey role text →
      HoldsText (mergeRows dict rows) rowKey role ((cellOf rows rowKey role.value).getD text) := by
  intro rows
  induction rows with
  | nil =>
    intro dict text _ _ h
    exact h
  | cons first rows ih =>
    intro dict text hkeys hroles h
    obtain ⟨hfirst, hrest⟩ := List.nodup_cons.mp hkeys
    have hroles' : ∀ row ∈ rows, (row.2.map Prod.fst).Nodup :=
      fun r hr => hroles r (List.mem_cons_of_mem _ hr)
    show HoldsText (mergeRows (mergeRow dict first.1 first.2) rows) rowKey role _
    obtain ⟨values, hvalues, htext⟩ := h
    by_cases hkey : first.1 = rowKey
    · -- The row is updated here, and no later row has the key.
      have hnone : lookup Prod.fst rowKey rows = none := by
        refine lookup_none.mpr fun r hr heq => hfirst ?_
        rw [hkey, ← heq]
        exact List.mem_map_of_mem hr
      have hlater : cellOf rows rowKey role.value = none := by
        unfold cellOf
        rw [hnone]
        rfl
      have hcell : cellOf (first :: rows) rowKey role.value =
          (lookup Prod.fst role.value first.2).map Prod.snd := by
        unfold cellOf lookup
        rw [List.find?_cons_of_pos (by simpa using hkey)]
        rfl
      have hentries : (dictKeys (first.2.map fun e => (e.1, Json.str e.2))).Nodup := by
        unfold dictKeys
        rw [List.map_map]
        exact hroles first List.mem_cons_self
      have hmerged : HoldsText (mergeRow dict first.1 first.2) rowKey role
          (((lookup Prod.fst role.value first.2).map Prod.snd).getD text) := by
        refine ⟨dictUpdate values (first.2.map fun e => (e.1, .str e.2)), ?_, ?_⟩
        · unfold mergeRow
          rw [hkey, hvalues, dictGet_dictSet_self]
        · rw [dictGet_dictUpdate hentries, dictGet_texts, htext]
          cases lookup Prod.fst role.value first.2 <;> rfl
      have hresult := ih hrest hroles' hmerged
      rw [hlater] at hresult
      rw [hcell]
      exact hresult
    · have hcell : cellOf (first :: rows) rowKey role.value = cellOf rows rowKey role.value := by
        unfold cellOf lookup
        rw [List.find?_cons_of_neg (by simpa using hkey)]
      rw [hcell]
      refine ih hrest hroles' ⟨values, ?_, htext⟩
      unfold mergeRow
      rw [dictGet_dictSet_ne hkey, hvalues]

/-- A setting that was written is found. -/
theorem lookup_putSetting (key value : PyStr) (settings : List Setting) :
    (lookup (·.key) key (putSetting key value settings)).map (·.value) = some value := by
  unfold putSetting
  cases hrow : lookup (·.key) key settings with
  | none =>
    show (lookup (·.key) key (settings ++ [⟨key, value⟩])).map (·.value) = some value
    rw [lookup_append, hrow]
    simp [lookup]
  | some row =>
    have hmodified : lookup (·.key) key
        (modifyRow (·.key) key (fun row => { row with value := value }) settings)
        = some ⟨row.key, value⟩ := by
      have hkeys : ∀ r ∈ settings, r.key = key → ({ r with value := value } : Setting).key = key :=
        fun _ _ h => h
      rw [lookup_modifyRow_self (g := fun row : Setting => { row with value := value }) hkeys, hrow]
      rfl
    show (lookup (·.key) key
      (modifyRow (·.key) key (fun row => { row with value := value }) settings)).map _ = _
    rw [hmodified]
    rfl

/-- The text of a setting decides what is read. -/
theorem load_of_text {settings : List Setting} {config : AccessConfig} (hlevels : 2 ≤ rt.jsonLevels)
    (hkeys : (config.map Prod.fst).Nodup)
    (h : (lookup (·.key) roleAccessSettingKey settings).map (·.value) = some config.text) :
    getRoleAccessConfig rt settings
      = .ok (normalizeRoleAccessConfig rt (.obj (Json.sortMembers config.toDict))) := by
  obtain ⟨stored, hstored, htext⟩ := Option.map_eq_some_iff.mp h
  obtain ⟨levels, hlevels⟩ := Nat.exists_eq_add_of_le' hlevels
  have hne : stored.value ≠ [] := by
    rw [htext]
    exact List.cons_ne_nil _ _
  have hlimited : decodeWithin (some rt.jsonLevels) config.text =
      .ok (.obj (Json.sortMembers config.toDict)) := by
    rw [hlevels]
    exact decode_text rfl rfl hkeys
  unfold getRoleAccessConfig
  rw [hstored]
  dsimp only
  rw [if_neg hne, htext, hlimited]

/-- What a save does to the matrix that is read. -/
theorem store_spec {settings : List Setting} {config : AccessConfig}
    (submitted : RoleAccessSubmission) (hlevels : 2 ≤ rt.jsonLevels)
    (hload : getRoleAccessConfig rt settings = .ok config) :
    ∃ settings' config', saveRoleAccessConfig rt submitted.rows settings = .ok settings' ∧
      getRoleAccessConfig rt settings' = .ok config' ∧
      ∀ row ∈ accessRowDefinitions, ∀ role, role ≠ .superAdmin → row.key ∉ superAdminOnlyKeys →
        row.key ∉ adminOnlyKeys → ∀ text, config.value row.key role = some text →
          config'.value row.key role =
            let given := strip ((submitted.cell row.key role.value).getD text)
            some (if given ∈ row.options.values then given else row.defaults role) := by
  have hsound := soundMatrix_load hload
  have hnodup : (config.map Prod.fst).Nodup := hsound.keys ▸ accessRowKeys_nodup
  let merged := mergeRows config.toDict submitted.rows
  refine ⟨putSetting roleAccessSettingKey
      (normalizeRoleAccessConfig rt (.obj merged)).text settings,
    normalizeRoleAccessConfig rt (.obj merged), ?_, ?_, ?_⟩
  · unfold saveRoleAccessConfig
    rw [hload]
    rfl
  · rw [load_of_text hlevels (nodup_normalize rt (.obj merged)) (lookup_putSetting _ _ _),
      (normalize_normal rt (.obj merged)).2]
  · intro row hrow role hrole hsuper hadmin text hvalue
    have hholds :=
      mergeRows_holds submitted.rowKeys submitted.roleKeys (toDict_holds hnodup hvalue).1
    rw [value_normalize hrow]
    show some (normalizeRow rt row (getItem merged row.key) role) = _
    rw [normalizeRow_of_holds hholds hadmin hsuper hrole]
    rfl

end Save

/-! ## Runs -/

section Runs

variable {rt : Runtime} {settings : List Setting} {config : AccessConfig}

/-- A cell that the code does not lock. -/
structure Unlocked (row : AccessRowDefinition) (role : Role) : Prop where
  defined : row ∈ accessRowDefinitions
  notSuperAdmin : role ≠ .superAdmin
  notSuperAdminOnly : row.key ∉ superAdminOnlyKeys
  notAdminOnly : row.key ∉ adminOnlyKeys

/-- Saves leave the cells that they do not submit. -/
theorem storeAll_spec (hlevels : 2 ≤ rt.jsonLevels) :
    ∀ {saves : List RoleAccessSubmission} {settings : List Setting}
    {config : AccessConfig}, getRoleAccessConfig rt settings = .ok config →
      ∃ config', getRoleAccessConfig rt (storeAll rt saves settings) = .ok config' ∧
        ∀ row role, Unlocked row role →
        (∀ submitted ∈ saves, submitted.cell row.key role.value = none) →
          config'.value row.key role = config.value row.key role := by
  intro saves
  induction saves with
  | nil =>
    intro settings config hload
    exact ⟨config, hload, fun _ _ _ _ => rfl⟩
  | cons submitted saves ih =>
    intro settings config hload
    obtain ⟨settings₁, config₁, hstore, hload₁, hcells⟩ := store_spec submitted hlevels hload
    obtain ⟨config', hload', hkept⟩ := ih hload₁
    have hrun : storeAll rt (submitted :: saves) settings = storeAll rt saves settings₁ := by
      unfold storeAll
      rw [List.foldl_cons, hstore]
    refine ⟨config', hrun ▸ hload', fun row role hcell hnone => ?_⟩
    obtain ⟨text, hvalid, hvalue⟩ := (soundMatrix_load hload).valid row hcell.defined role
    have hfirst := hcells row hcell.defined role hcell.notSuperAdmin hcell.notSuperAdminOnly
      hcell.notAdminOnly text hvalue
    dsimp only at hfirst
    rw [hnone submitted List.mem_cons_self, Option.getD_none, strip_option hvalid, if_pos hvalid]
      at hfirst
    rw [hkept row role hcell fun s hs => hnone s (List.mem_cons_of_mem _ hs), hfirst, hvalue]

/-- The stored text has more containers inside each other than `json.loads` opens. -/
def NestsTooDeep (rt : Runtime) (settings : List Setting) : Prop :=
  ∃ row, lookup (·.key) roleAccessSettingKey settings = some row ∧
    decodeWithin (some rt.jsonLevels) row.value = .error .tooDeep

/-- Reading fails on a text that nests too deep, and on no other. -/
theorem load_error_iff : (∃ e, getRoleAccessConfig rt settings = .error e) ↔
    NestsTooDeep rt settings := by
  unfold getRoleAccessConfig NestsTooDeep
  cases hrow : lookup (·.key) roleAccessSettingKey settings with
  | none => simp
  | some row =>
    dsimp only
    by_cases hempty : row.value = []
    · rw [if_pos hempty]
      have hinvalid : decodeWithin (some rt.jsonLevels) [] = .error .invalid := rfl
      simp [hempty, hinvalid]
    · rw [if_neg hempty]
      cases hdecode : decodeWithin (some rt.jsonLevels) row.value with
      | ok parsed => simp [hdecode]
      | error e => cases e <;> simp [hdecode]

/-- A stored value that cannot be read stays, and every save fails. -/
theorem storeAll_error {e : DecodeError} (h : getRoleAccessConfig rt settings = .error e)
    (saves : List RoleAccessSubmission) : storeAll rt saves settings = settings := by
  induction saves with
  | nil => rfl
  | cons submitted saves ih =>
    have hstore : saveRoleAccessConfig rt submitted.rows settings = .error e := by
      unfold saveRoleAccessConfig
      rw [h]
      rfl
    have hrun : storeAll rt (submitted :: saves) settings = storeAll rt saves settings := by
      unfold storeAll
      rw [List.foldl_cons, hstore]
    rw [hrun, ih]

/-- After the saves the matrix is read, it is guarded, and a valid value that was submitted for a
cell that is not locked is there until a later save submits the cell. -/
def AccessSafe (rt : Runtime) (settings : List Setting)
    (saves : List RoleAccessSubmission) : Prop :=
  ∃ config, getRoleAccessConfig rt (storeAll rt saves settings) = .ok config ∧
    SoundMatrix rt config ∧
    ∀ earlier submitted later, saves = earlier ++ submitted :: later →
      ∀ row role text, Unlocked row role → submitted.cell row.key role.value = some text →
        strip text ∈ row.options.values → (∀ next ∈ later, next.cell row.key role.value = none) →
          config.value row.key role = some (strip text)

end Runs

/-- Whatever text is stored and whatever is submitted, the matrix that is read is safe, exactly
when the text does not nest too deep to be read at all. -/
theorem role_access_safe_iff {rt : Runtime} (settings : List Setting)
    (saves : List RoleAccessSubmission)
    (hlevels : 2 ≤ rt.jsonLevels) : AccessSafe rt settings saves ↔ ¬ NestsTooDeep rt settings := by
  constructor
  · rintro ⟨config, hload, -⟩ hdeep
    obtain ⟨e, herror⟩ := load_error_iff.mpr hdeep
    rw [storeAll_error herror, herror] at hload
    cases hload
  · intro hshallow
    cases hload : getRoleAccessConfig rt settings with
    | error e => exact absurd (load_error_iff.mp ⟨e, hload⟩) hshallow
    | ok config =>
      obtain ⟨last, hlast⟩ : ∃ last,
        getRoleAccessConfig rt (storeAll rt saves settings) = .ok last := by
        obtain ⟨last, hlast, -⟩ := storeAll_spec hlevels hload
        exact ⟨last, hlast⟩
      refine ⟨last, hlast, soundMatrix_load hlast, ?_⟩
      intro earlier submitted later hsaves row role text hcell htext hvalid hlater
      -- The save in question, and then the ones that do not submit the cell.
      obtain ⟨before, hbefore⟩ : ∃ before,
        getRoleAccessConfig rt (storeAll rt earlier settings) = .ok before := by
        obtain ⟨before, hbefore, -⟩ := storeAll_spec hlevels hload
        exact ⟨before, hbefore⟩
      obtain ⟨settings₁, config₁, hstore, hload₁, hcells⟩ := store_spec submitted hlevels hbefore
      obtain ⟨after, hafter, hkept⟩ : ∃ after,
        getRoleAccessConfig rt (storeAll rt later settings₁) = .ok after ∧
          ∀ row role, Unlocked row role → (∀ next ∈ later, next.cell row.key role.value = none) →
            after.value row.key role = config₁.value row.key role := storeAll_spec hlevels hload₁
      have hrun : storeAll rt saves settings = storeAll rt later settings₁ := by
        rw [hsaves]
        unfold storeAll
        rw [List.foldl_append, List.foldl_cons]
        show List.foldl
          _ (match saveRoleAccessConfig rt submitted.rows (storeAll rt earlier settings) with
          | .ok settings => settings
          | .error _ => storeAll rt earlier settings) later = _
        rw [hstore]
      rw [hrun, hafter] at hlast
      obtain rfl := Except.ok.inj hlast
      obtain ⟨old, -, hold⟩ := (soundMatrix_load hbefore).valid row hcell.defined role
      have hset := hcells row hcell.defined role hcell.notSuperAdmin hcell.notSuperAdminOnly
        hcell.notAdminOnly old hold
      dsimp only at hset
      rw [htext, Option.getD_some, if_pos hvalid] at hset
      rw [hkept row role hcell hlater, hset]

/-- Sales may open the stock movement page; the other cell is locked. -/
def salesSubmission : RoleAccessSubmission where
  rows :=
    [(py "page_stock_movement", [(py "sales", py "shown")]),
      (py "database_reset", [(py "sales", py "yes")])]
  rowKeys := by decide +kernel
  roleKeys := by decide +kernel

/-- One save by which sales may not see the dashboard. -/
theorem role_access_safe_sales : AccessSafe Runtime.plain [] [salesSubmission] :=
  (role_access_safe_iff [] [salesSubmission] (by decide)).mpr fun ⟨_, hrow, _⟩ => nomatch hrow

/-- A text with one bracket too many. -/
theorem nestsTooDeep_brackets (rt : Runtime) (rest : PyStr) :
    NestsTooDeep rt
        [⟨roleAccessSettingKey, List.replicate (rt.jsonLevels + 1) (cp '[') ++ rest⟩] := by
  have hlookup : ∀ value, lookup (·.key) roleAccessSettingKey [⟨roleAccessSettingKey, value⟩]
      = some (⟨roleAccessSettingKey, value⟩ : Setting) := by
    intro value
    simp [lookup]
  exact ⟨_, hlookup _, decodeWithin_nested rt.jsonLevels rest⟩

/-- A stored list of 901 lists inside each other is valid JSON, and is not read. -/
theorem role_access_not_read : ¬ AccessSafe Runtime.plain
    [⟨roleAccessSettingKey, List.replicate 901 (cp '[') ++ List.replicate 901 (cp ']')⟩] [] := by
  rintro ⟨config, hload, -⟩
  obtain ⟨e, herror⟩ :=
    load_error_iff.mpr (nestsTooDeep_brackets Runtime.plain (List.replicate 901 (cp ']')))
  have hboth : Except.error e = Except.ok config := herror.symm.trans hload
  cases hboth

end SetuoraLite
