import SetuoraLite.Lib.Casing
import SetuoraLite.Store.Models

/-!
# The node's configuration

The settings the sync code reads, and the franchise code derived from them. A
franchise code is normalised before use: upper-cased, every run of other
characters replaced by one hyphen, hyphens at the ends dropped.
-/

namespace SetuoraLite

open Lib

/-- What `get_settings()` holds at some moment. -/
structure Settings where
  lite : Bool
  masterSyncEnabled : Bool
  sftpSyncEnabled : Bool
  franchiseCode : PyStr
  masterUrl : PyStr
  masterApiKey : PyStr
  masterRequestTimeoutSeconds : Int
deriving DecidableEq

/-- `MasterSyncError(text)`. -/
def masterSyncError (text : PyStr) : PyError := ⟨.masterSync, text⟩

/-- The codes that only stand in for a real one. -/
def franchiseCodePlaceholders : List PyStr :=
  [py "CHANGE-ME", py "CHANGEME", py "DEFAULT", py "FRANCHISE", py "FRANCHISE-CODE", py "LITE",
    py "MASTER", py "SETUORA", py "YOUR-FRANCHISE", py "YOUR-FRANCHISE-CODE"]

/-- A code point of `[A-Z0-9_-]`. -/
def isCodeChar (c : CodePoint) : Bool :=
  (65 ≤ c.val && c.val ≤ 90) || isDigit c || c == cp '_' || c == cp '-'

/-- `re.sub(r"[^A-Z0-9_-]+", "-", s)`; the flag says that the last code point was replaced. -/
def hyphenate : Bool → PyStr → PyStr
  | _, [] => []
  | inRun, c :: cs =>
    if isCodeChar c then c :: hyphenate false cs
    else if inRun then hyphenate true cs
    else cp '-' :: hyphenate true cs

/-- `s.strip("-")`. -/
def stripHyphens (s : PyStr) : PyStr :=
  (s.dropWhile fun c => c == cp '-').rdropWhile fun c => c == cp '-'

/-- `normalize_franchise_code` of a text. -/
def normalizeFranchiseCode (value : PyStr) : PyStr :=
  stripHyphens (hyphenate false (upper (strip value)))

/-- `configured_franchise_code(required=…)`; `none` leaves it to the sync switch. -/
def configuredFranchiseCode (st : Settings) (required : Option Bool) : Except PyError PyStr :=
  let code := normalizeFranchiseCode st.franchiseCode
  let mustExist := required.getD st.masterSyncEnabled
  if mustExist = true ∧ (code = [] ∨ code ∈ franchiseCodePlaceholders) then
    .error (masterSyncError
      (py "Configure a unique FRANCHISE_CODE before enabling Setuora Master sync."))
  else if code ≠ [] ∧ 20 < code.length then
    .error (masterSyncError (py "FRANCHISE_CODE must be 20 characters or fewer."))
  else .ok code

/-- `_request_timeout()`, in seconds. -/
def requestTimeout (st : Settings) : Nat := max 1 st.masterRequestTimeoutSeconds.toNat

/-- `_master_credentials()`. -/
def masterCredentials (st : Settings) : Except PyError (PyStr × PyStr) := do
  let _ ← configuredFranchiseCode st (some true)
  let url := (strip st.masterUrl).rdropWhile fun c => c == cp '/'
  let key := strip st.masterApiKey
  if url = [] then
    .error (masterSyncError (py "Configure MASTER_URL before enabling Setuora Master sync."))
  else if key = [] then
    .error (masterSyncError (py "Configure MASTER_API_KEY before enabling Setuora Master sync."))
  else .ok (url, key)

/-- A node of franchise `HOME` with nothing queued. -/
def homeSettings : Settings :=
  ⟨true, true, false, py "HOME", py "https://master.example",
    py "setuora-node.a1.0123456789abcdef0123456789abcdef", 15⟩

end SetuoraLite
