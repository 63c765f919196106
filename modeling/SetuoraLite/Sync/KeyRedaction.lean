import SetuoraLite.Lib.Redact
import SetuoraLite.Sync.PushSettle

/-!
# The node key in stored errors

What Master answers is summarised into `last_error`, and the answer may quote the access
key that the request carried. The summary is cut, joined and re-encoded before and after the
key is replaced in it, but the last replacement is over the whole text and only a cut comes
after it. A key has no bracket in it and is longer than the word between the brackets of
`[redacted]`, so the replacement leaves no key (`key_seals`), and neither does a cut of what
is left.

`key_never_stored` is the result: of the summary, and of every step of every pass in every
run, however Master answers.
-/

namespace SetuoraLite

open Lib

/-! ## Keys -/

/-- A code point of `[A-Za-z0-9_-]`. -/
def isKeyChar (c : CodePoint) : Bool :=
  (65 ≤ c.val && c.val ≤ 90) || (97 ≤ c.val && c.val ≤ 122) || isDigit c || c == cp '_' ||
    c == cp '-'

/-- `MASTER_API_KEY_PATTERN.fullmatch`. -/
def masterApiKeyPattern (key : PyStr) : Bool :=
  let rest := key.drop (py "setuora-node.").length
  let node := rest.takeWhile isKeyChar
  let tail := rest.dropWhile isKeyChar
  (py "setuora-node.").isPrefixOf key && !node.isEmpty &&
    match tail with
    | [] => false
    | dot :: secret => dot == cp '.' && decide (32 ≤ secret.length) && secret.all isKeyChar

example : masterApiKeyPattern homeSettings.masterApiKey = true := by decide

/-- The text does not hold the key. -/
def Hides (key text : PyStr) : Prop := ¬ key <:+: text

variable {key : PyStr}

/-- A key is its heading, a node, a point and a secret. -/
private theorem key_parts (h : masterApiKeyPattern key = true) :
    ∃ node secret, key = py "setuora-node." ++ (node ++ cp '.' :: secret) ∧
      (∀ c ∈ node, isKeyChar c = true) ∧ 32 ≤ secret.length ∧ ∀ c ∈ secret, isKeyChar c = true := by
  simp only [masterApiKeyPattern, Bool.and_eq_true] at h
  obtain ⟨⟨hstart, -⟩, htail⟩ := h
  obtain ⟨rest, rfl⟩ := List.isPrefixOf_iff_prefix.mp hstart
  rw [List.drop_left] at htail
  split at htail
  next => cases htail
  next dot secret hdrop =>
    simp only [Bool.and_eq_true, decide_eq_true_eq, beq_iff_eq, List.all_eq_true] at htail
    obtain ⟨⟨rfl, hlength⟩, hsecret⟩ := htail
    refine ⟨rest.takeWhile isKeyChar, secret, ?_, ?_, hlength, hsecret⟩
    · rw [← hdrop, List.takeWhile_append_dropWhile]
    · intro c hc
      exact List.mem_takeWhile_imp hc

/-- A code point that no part of a key may have. -/
private theorem key_lacks (h : masterApiKeyPattern key = true) {c : CodePoint}
    (hheading : c ∉ py "setuora-node.") (hchar : isKeyChar c = false) : c ∉ key := by
  obtain ⟨node, secret, rfl, hnode, -, hsecret⟩ := key_parts h
  intro hmem
  rcases List.mem_append.mp hmem with hmem | hmem
  · exact hheading hmem
  rcases List.mem_append.mp hmem with hmem | hmem
  · have := hnode c hmem
    rw [hchar] at this
    cases this
  rcases List.mem_cons.mp hmem with rfl | hmem
  · exact hheading (by decide)
  · have := hsecret c hmem
    rw [hchar] at this
    cases this

/-- A key takes no part in what replaces it. -/
theorem key_seals (h : masterApiKeyPattern key = true) : Seals key (py "[redacted]") := by
  refine ⟨cp '[', py "redacted", cp ']', rfl, ?_, ?_, ?_⟩
  · exact key_lacks h (by decide) (by decide)
  · exact key_lacks h (by decide) (by decide)
  · obtain ⟨node, secret, rfl, -, hlength, -⟩ := key_parts h
    have hword : (py "redacted").length = 8 := rfl
    simp only [List.length_append, List.length_cons, hword]
    omega

/-- A text without a hyphen holds no key. -/
private theorem hides_of_plain (h : masterApiKeyPattern key = true) {text : PyStr}
    (hplain : cp '-' ∉ text) : Hides key text := by
  intro hin
  obtain ⟨node, secret, rfl, -, -, -⟩ := key_parts h
  have hhyphen : cp '-' ∈ py "setuora-node." := by decide
  exact hplain (hin.subset (List.mem_append_left _ hhyphen))

theorem Hides.take {text : PyStr} (h : Hides key text) (n : Nat) : Hides key (text.take n) :=
  fun hin => h (hin.trans (List.take_prefix n text).isInfix)

/-- What was redacted hides the key. -/
theorem redacted_hides (h : masterApiKeyPattern key = true) (text : PyStr) :
    Hides key (redacted key text) := by
  unfold redacted
  split
  next hnil =>
    subst hnil
    cases h
  next => exact replaceAll_clean (key_seals h) text

/-! ## Texts of errors -/

theorem safeError_hides (h : masterApiKeyPattern key = true) (text : PyStr) :
    Hides key (safeError key text) :=
  (redacted_hides h _).take 1000

/-- The summary of an error hides the key, whatever Master answered. -/
theorem masterHttpErrorSummary_hides {rt : Runtime} (h : masterApiKeyPattern key = true)
    {status : Int} {body : List UInt8} {summary : PyStr}
    (hsummary : masterHttpErrorSummary rt status body key = .ok summary) : Hides key summary := by
  unfold masterHttpErrorSummary at hsummary
  split at hsummary
  next =>
    obtain rfl := Except.ok.inj hsummary
    exact hides_of_plain h (by decide)
  next =>
    -- However the text came about, it is redacted as a whole and then cut.
    have hlast : ∀ text,
        Except.ok ((redacted key text).take 1000) = (.ok summary : Except PyError PyStr) →
        Hides key summary := by
      intro text he
      obtain rfl := Except.ok.inj he
      exact (redacted_hides h text).take 1000
    obtain ⟨envelope, -, hsummary⟩ := except_bind_ok.mp hsummary
    dsimp only at hsummary
    split at hsummary
    · exact hlast _ hsummary
    split at hsummary
    · obtain ⟨details, -, hsummary⟩ := except_bind_ok.mp hsummary
      exact hlast _ hsummary
    · exact hlast _ hsummary

/-- Why a delivery failed, as a pass words it, hides its key. -/
theorem judge_hides {rt : Runtime} (h : masterApiKeyPattern key = true) {event : MasterOutboxEvent}
    {reply : Reply} {failure : Failure}
    (hjudge : judge rt key event reply = .ok (.failed failure)) :
    Hides key failure.message := by
  have hrejected : ∀ status body, rejected rt key status body = .ok (.failed failure) →
      Hides key failure.message := by
    intro status body hr
    unfold rejected at hr
    obtain ⟨code, -, hr⟩ := except_bind_ok.mp hr
    obtain ⟨message, hmessage, hr⟩ := except_bind_ok.mp hr
    cases hr
    exact (masterHttpErrorSummary_hides h hmessage).take 1000
  cases reply with
  | httpError status body => exact hrejected _ _ hjudge
  | networkError text =>
    cases hjudge
    exact safeError_hides h text
  | otherError text =>
    cases hjudge
    exact safeError_hides h text
  | response status body =>
    simp only [judge] at hjudge
    split at hjudge
    · cases hjudge
      exact safeError_hides h _
    split at hjudge
    · exact hrejected _ _ hjudge
    split at hjudge
    · cases hjudge
    · cases hjudge
      exact safeError_hides h _

/-! ## Passes -/

/-- The failure that a phase is about to store. -/
def Phase.failure : Phase → Option Failure
  | .failing _ failure | .failReady _ failure _ => some failure
  | _ => none

/-- A pass with a key has worded its failure without it. -/
def Pass.Discreet (pass : Pass) : Prop :=
  masterApiKeyPattern pass.apiKey = true →
    ∀ failure ∈ pass.phase.failure, Hides pass.apiKey failure.message

theorem admission_discreet {apiKey : PyStr} {event : MasterOutboxEvent} {now : Instant}
    {phase : Phase} (h : admission apiKey event now = some phase)
    (hkey : masterApiKeyPattern apiKey = true) :
    ∀ failure ∈ phase.failure, Hides apiKey failure.message := by
  unfold admission at h
  split at h
  · cases h
  split at h
  · cases h
    intro failure hf
    cases hf
    exact safeError_hides hkey _
  · cases h
    intro failure hf
    cases hf

private theorem setPass_self (w : World) (p : Nat) (pass : Option Pass) :
    (w.setPass p pass).passes p = pass := by
  show Function.update w.passes p pass p = pass
  exact Function.update_self ..

/-- After a commit the pass stands where it was to stand, if at all. -/
private theorem commit_pass {w : World} {p : Nat} {x : Tx PUnit} {next : Option Pass}
    {entries : Db → List Entry} {pass : Pass}
    (h : (w.commit p x next entries).passes p = some pass) :
    next = some pass := by
  unfold World.commit at h
  split at h
  next => exact (setPass_self w p next).symm.trans h
  next => exact absurd ((setPass_self w p none).symm.trans h) (by simp)

/-- Before the failure is worded there is nothing to hide. -/
private theorem Discreet.quiet {pass : Pass} (h : pass.phase.failure = none) : pass.Discreet := by
  intro _ failure hf
  rw [h] at hf
  cases hf

/-- The next step of a pass leaves it discreet. -/
private theorem passStep_discreet {rt : Runtime} {w w' : World} {p : Nat} {pass pass' : Pass}
    {now : Instant} {reply : Option Reply} (h : pass.Discreet)
    (hstep : passStep rt w p pass now reply = some w')
    (hpass : w'.passes p = some pass') : pass'.Discreet ∧ pass'.apiKey = pass.apiKey := by
  obtain ⟨apiKey, limit, sentCount, phase⟩ := pass
  -- The phases that may word a failure are the ones that admit an event or judge a reply.
  have hadmitted : ∀ {event : MasterOutboxEvent} {at_ : Instant},
      (admission apiKey event at_).bind
        (fun phase => some (⟨apiKey, limit, sentCount, phase⟩ : Pass))
        = some pass' → pass'.Discreet ∧ pass'.apiKey = apiKey := by
    intro event at_ he
    obtain ⟨phase, hphase, he⟩ := Option.bind_eq_some_iff.mp he
    obtain rfl := Option.some.inj he
    exact ⟨fun hkey => admission_discreet hphase hkey, rfl⟩
  cases phase with
  | head =>
    simp only [passStep] at hstep
    split at hstep
    · obtain rfl := Option.some.inj hstep
      rw [setPass_self] at hpass
      cases hpass
    · obtain rfl := Option.some.inj hstep
      rw [setPass_self] at hpass
      unfold selectEvent at hpass
      split at hpass
      · cases hpass
      split at hpass
      · split at hpass
        · cases hpass
        · cases hpass
          exact ⟨Discreet.quiet rfl, rfl⟩
      · exact hadmitted hpass
  | recovering event readAt =>
    obtain rfl := Option.some.inj hstep
    cases commit_pass hpass
    exact ⟨Discreet.quiet rfl, rfl⟩
  | reloading id readAt =>
    obtain rfl := Option.some.inj hstep
    rw [setPass_self] at hpass
    obtain ⟨event, -, hpass⟩ := Option.bind_eq_some_iff.mp hpass
    exact hadmitted hpass
  | claiming event readAt =>
    obtain rfl := Option.some.inj hstep
    rw [setPass_self] at hpass
    cases hpass
    exact ⟨Discreet.quiet rfl, rfl⟩
  | claimReady event readAt batch =>
    obtain rfl := Option.some.inj hstep
    cases commit_pass hpass
    exact ⟨Discreet.quiet rfl, rfl⟩
  | claimed id =>
    simp only [passStep] at hstep
    split at hstep
    · obtain rfl := Option.some.inj hstep
      rw [setPass_self] at hpass
      cases hpass
    · obtain rfl := Option.some.inj hstep
      have hset := (setPass_self w p _).symm.trans hpass
      cases hset
      exact ⟨Discreet.quiet rfl, rfl⟩
  | posted event =>
    simp only [passStep] at hstep
    split at hstep
    · cases hstep
    split at hstep
    · obtain rfl := Option.some.inj hstep
      rw [setPass_self] at hpass
      cases hpass
    next failure hjudge =>
      obtain rfl := Option.some.inj hstep
      rw [setPass_self] at hpass
      cases hpass
      refine ⟨fun hkey failure' hf => ?_, rfl⟩
      cases hf
      exact judge_hides hkey hjudge
    · obtain rfl := Option.some.inj hstep
      rw [setPass_self] at hpass
      cases hpass
      exact ⟨Discreet.quiet rfl, rfl⟩
  | failing event failure =>
    obtain rfl := Option.some.inj hstep
    rw [setPass_self] at hpass
    cases hpass
    exact ⟨h, rfl⟩
  | failReady event failure batch =>
    obtain rfl := Option.some.inj hstep
    cases commit_pass hpass
  | acked event status body =>
    obtain rfl := Option.some.inj hstep
    rw [setPass_self] at hpass
    cases hpass
    exact ⟨Discreet.quiet rfl, rfl⟩
  | ackReady event status body batch receipt =>
    obtain rfl := Option.some.inj hstep
    cases commit_pass hpass
    exact ⟨Discreet.quiet rfl, rfl⟩

/-- Every pass is discreet. -/
def AllDiscreet (w : World) : Prop := ∀ p pass, w.passes p = some pass → pass.Discreet

/-- A step of one pass moves no other. -/
private theorem passStep_others {rt : Runtime} {w w' : World} {p q : Nat} {pass : Pass}
    {now : Instant} {reply : Option Reply} (hstep : passStep rt w p pass now reply = some w')
    (hq : q ≠ p) :
    w'.passes q = w.passes q := by
  have hset : ∀ new, (w.setPass p new).passes q = w.passes q := by
    intro new
    show Function.update w.passes p new q = w.passes q
    exact Function.update_of_ne hq ..
  have hcommit : ∀ x next entries, (w.commit p x next entries).passes q = w.passes q := by
    intro x next entries
    unfold World.commit
    split <;> exact hset _
  unfold passStep at hstep
  dsimp only at hstep
  split at hstep
  case h_1 => split at hstep <;> (obtain rfl := Option.some.inj hstep; exact hset _)
  case h_6 => split at hstep <;> (obtain rfl := Option.some.inj hstep; exact hset _)
  case h_7 =>
    split at hstep
    · cases hstep
    · split at hstep <;> (obtain rfl := Option.some.inj hstep; exact hset _)
  all_goals obtain rfl := Option.some.inj hstep
  case h_2 => exact hcommit _ _ _
  case h_5 => exact hcommit _ _ _
  case h_9 => exact hcommit _ _ _
  case h_11 => exact hcommit _ _ _
  all_goals exact hset _

/-- A change of one pass, into one that is discreet. -/
private theorem AllDiscreet.setPass {w : World} (h : AllDiscreet w) {p : Nat} {new : Option Pass}
    (hnew : ∀ pass ∈ new, pass.Discreet) : AllDiscreet (w.setPass p new) := by
  intro q pass hq
  rcases setPass_cases hq with ⟨-, he⟩ | ⟨-, hold⟩
  · exact hnew pass he
  · exact h q pass hold

/-- Every step keeps every pass discreet. -/
theorem AllDiscreet.step {rt : Runtime} {w w' : World} {a : Action} (h : AllDiscreet w)
    (hstep : pushMachine rt w a = some w') : AllDiscreet w' := by
  -- A step moves one pass; the phase it reaches hides the key, as the others did.
  cases a with
  | begin p limit =>
    simp only [pushMachine] at hstep
    split at hstep
    · obtain rfl := Option.some.inj hstep
      refine h.setPass fun pass hpass => ?_
      unfold beginPass at hpass
      split at hpass
      · cases hpass
      split at hpass
      · cases hpass
        exact Discreet.quiet rfl
      · cases hpass
    · cases hstep
  | pass p now reply =>
    simp only [pushMachine, Option.bind_eq_some_iff] at hstep
    obtain ⟨pass, hp, hstep⟩ := hstep
    intro q pass' hq
    by_cases hpq : q = p
    · subst hpq
      exact (passStep_discreet (h q pass hp) hstep hq).1
    · rw [passStep_others hstep hpq] at hq
      exact h q pass' hq
  | kill p =>
    obtain rfl := Option.some.inj hstep
    exact h.setPass fun pass hpass => by cases hpass
  | askRetry q id =>
    simp only [pushMachine] at hstep
    split at hstep
    · split at hstep
      · obtain rfl := Option.some.inj hstep
        exact h
      · split at hstep <;> (obtain rfl := Option.some.inj hstep; exact h)
    · cases hstep
  | retry q =>
    simp only [pushMachine, Option.map_eq_some_iff] at hstep
    obtain ⟨retry, -, rfl⟩ := hstep
    cases retry <;> exact h
  | dropRetry q =>
    obtain rfl := Option.some.inj hstep
    exact h
  | enqueue uuid now request =>
    obtain rfl := Option.some.inj hstep
    exact h
  | configure st =>
    obtain rfl := Option.some.inj hstep
    exact h

/-! ## What is stored -/

/-- An error that names the key, in an event or a batch, was there before. -/
structure KeyNotAdded (key : PyStr) (before after : Db) : Prop where
  events : ∀ row ∈ after.outbox, ∀ text ∈ row.lastError, key <:+: text →
    ∃ row₀ ∈ before.outbox, row₀.id = row.id ∧ row₀.lastError = some text
  batches : ∀ row ∈ after.batches, ∀ text ∈ row.lastError, key <:+: text →
    ∃ row₀ ∈ before.batches, row₀.id = row.id ∧ row₀.lastError = some text

theorem KeyNotAdded.same {db db' : Db} (ho : db'.outbox = db.outbox)
    (hb : db'.batches = db.batches) :
    KeyNotAdded key db db' where
  events row hrow _ htext _ := ⟨row, ho ▸ hrow, rfl, htext⟩
  batches row hrow _ htext _ := ⟨row, hb ▸ hrow, rfl, htext⟩

/-- A column that is written without the key, or left, adds no key. -/
private theorem column_hides {loaded new stored : Option PyStr}
    (hnew : ∀ text ∈ new, Hides key text) {text : PyStr} (htext : text ∈ column loaded new stored)
    (hin : key <:+: text) :
    stored = some text := by
  rcases column_cases loaded new stored with ⟨-, he⟩ | ⟨-, he⟩
  · exact he ▸ htext
  · exact absurd hin (hnew text (he ▸ htext))

/-- A commit that words its errors without the key adds no key. -/
private theorem keyNotAdded_merged {event : MasterOutboxEvent × MasterOutboxEvent}
    {batch : Option (Batch × Batch)} {receipt : Option (Receipt × Receipt)} (db : Db)
    (hevent : ∀ text ∈ event.2.lastError, Hides key text)
    (hbatch : ∀ b ∈ batch, ∀ text ∈ b.2.lastError, Hides key text) :
    KeyNotAdded key db (mergedDb event batch receipt db) := by
  constructor
  · intro row hrow text htext hin
    obtain ⟨row₀, hrow₀, rfl⟩ := mem_modifyRow.mp hrow
    split at htext
    next hid =>
      refine ⟨row₀, hrow₀, by rw [if_pos hid]; rfl, column_hides hevent htext hin⟩
    next hid =>
      exact ⟨row₀, hrow₀, by rw [if_neg hid], htext⟩
  · cases batch with
    | none =>
      intro row hrow text htext _
      exact ⟨row, hrow, rfl, htext⟩
    | some b =>
      intro row hrow text htext hin
      obtain ⟨row₀, hrow₀, rfl⟩ := mem_modifyRow.mp hrow
      split at htext
      next hid =>
        refine ⟨row₀, hrow₀, by rw [if_pos hid]; rfl, column_hides (hbatch b rfl) htext hin⟩
      next hid =>
        exact ⟨row₀, hrow₀, by rw [if_neg hid], htext⟩

/-- What a pass commits names its key in no error. -/
private theorem commits_hides {pass : Pass} (hpass : pass.Discreet)
    (hkey : masterApiKeyPattern pass.apiKey = true) {event : MasterOutboxEvent × MasterOutboxEvent}
    {batch : Option (Batch × Batch)} {receipt : Option (Receipt × Receipt)} {next : Option Phase}
    (h : pass.phase.Commits event batch receipt next) :
    (∀ text ∈ event.2.lastError, Hides pass.apiKey text) ∧
      ∀ b ∈ batch, ∀ text ∈ b.2.lastError, Hides pass.apiKey text := by
  obtain ⟨apiKey, limit, sentCount, phase⟩ := pass
  -- The texts of the event, and those of the batch, by the phase.
  cases h with
  | recovery =>
    constructor
    · intro text htext
      obtain rfl := Option.some.inj htext
      exact hides_of_plain hkey (by decide)
    · intro b hb
      cases hb
  | claim =>
    constructor
    · intro text htext
      cases htext
    · intro b hb text htext
      obtain ⟨b₀, -, rfl⟩ := Option.map_eq_some_iff.mp hb
      cases htext
  -- The message of a failure was redacted when it was judged.
  | failure =>
    have hmessage := hpass hkey _ rfl
    constructor
    · intro text htext
      obtain rfl := Option.some.inj htext
      exact hmessage
    · intro b hb text htext
      obtain ⟨b₀, -, rfl⟩ := Option.map_eq_some_iff.mp hb
      obtain rfl := Option.some.inj htext
      exact hmessage
  | acknowledgement =>
    constructor
    · intro text htext
      cases htext
    · intro b hb text htext
      obtain ⟨b₀, -, rfl⟩ := Option.map_eq_some_iff.mp hb
      cases htext

/-- A step of a pass adds its key to no stored error. -/
private theorem pass_keyNotAdded {rt : Runtime} {w w' : World} {p : Nat} {pass : Pass}
    {now : Instant} {reply : Option Reply} (hp : w.passes p = some pass) (hpass : pass.Discreet)
    (hkey : masterApiKeyPattern pass.apiKey = true)
    (hstep : pushMachine rt w (.pass p now reply) = some w') :
    KeyNotAdded pass.apiKey w.db w'.db := by
  cases pushMachine_cases hstep with
  | committed p' pass' event batch receipt next sentCount db hact hp' hcommits hflush =>
    obtain ⟨now', reply', hact⟩ := hact
    cases hact
    obtain rfl := Option.some.inj (hp.symm.trans hp')
    obtain ⟨hevent, hbatch⟩ := commits_hides hpass hkey hcommits
    rw [flushAll_ok hflush]
    exact keyNotAdded_merged w.db hevent hbatch
  | retried q event batch db hq hflush =>
    rw [flushAll_ok hflush]
    refine keyNotAdded_merged w.db (fun text htext => ?_) (fun b hb text htext => ?_)
    · cases htext
    · obtain ⟨b₀, -, rfl⟩ := Option.map_eq_some_iff.mp hb
      cases htext
  | enqueued uuid now' request row db hact henq => cases hact
  | configured st => exact .same rfl rfl
  | ended p' => exact .same rfl rfl
  | retryEnded q => exact .same rfl rfl
  | started p' apiKey limit hact _ => cases hact
  | moved p' pass' phase entries _ _ => exact .same rfl rfl
  | retryLoaded q id event hact => cases hact
  | retryRead q event hq => exact .same rfl rfl

/-- In every run, whatever Master answers: the summary of an error hides the key that it is
redacted for, and a pass puts its key into no event's and no batch's error. -/
theorem key_never_stored (rt : Runtime) {db : Db} {st : Settings} {as : List Action} {w : World}
    (hexec : exec (pushMachine rt) (World.idle db st) as = some w) :
    (∀ key status body summary, masterApiKeyPattern key = true →
      masterHttpErrorSummary rt status body key = .ok summary → ¬ key <:+: summary) ∧
    ∀ p pass now reply w', w.passes p = some pass → masterApiKeyPattern pass.apiKey = true →
      pushMachine rt w (.pass p now reply) = some w' → KeyNotAdded pass.apiKey w.db w'.db := by
  have hall : AllDiscreet w :=
    exec_invariant (m := pushMachine rt) (fun _ _ _ hI hm => AllDiscreet.step hI hm)
      (fun p pass hp => by cases hp) hexec
  refine ⟨fun key status body summary hkey hs => masterHttpErrorSummary_hides hkey hs, ?_⟩
  intro p pass now reply w' hp hkey hstep
  exact pass_keyNotAdded hp (hall p pass hp) hkey hstep

/-- An answer that quotes the key of the home installation. -/
def quotingError : List UInt8 :=
  (encodeUtf8 (py "\x7b\"error\":\x7b\"message\":\"refused " ++ homeSettings.masterApiKey ++
    py "\"\x7d\x7d")).getD []

/-- The home installation posts the baseline and is answered so. -/
def baselineQuoted : List Action :=
  baselinePosted ++ [.pass 0 0 (some (.httpError 400 quotingError)), .pass 0 0 none]

/-- The failure is stored, without the key. -/
theorem key_never_stored_home :
    ∃ w w', exec (pushMachine .plain) (World.idle .empty homeSettings) baselineQuoted = some w ∧
      pushMachine .plain w (.pass 0 63900000002000000 none) = some w' ∧
      w'.db.outbox.map (·.lastError) = [some (py "Master HTTP 400: refused [redacted]")] ∧
      KeyNotAdded homeSettings.masterApiKey w.db w'.db := by
  have hrun : ((exec (pushMachine .plain) (World.idle .empty homeSettings) baselineQuoted).bind
      fun w => (w.passes 0).bind fun pass =>
        (pushMachine .plain w (.pass 0 63900000002000000 none)).map fun w' =>
          (pass.apiKey, w'.db.outbox.map (·.lastError)))
      = some (homeSettings.masterApiKey, [some (py "Master HTTP 400: refused [redacted]")]) := by
    decide +kernel
  obtain ⟨w, hw, hrest⟩ := Option.bind_eq_some_iff.mp hrun
  obtain ⟨pass, hpass, hrest⟩ := Option.bind_eq_some_iff.mp hrest
  obtain ⟨w', hw', hend⟩ := Option.map_eq_some_iff.mp hrest
  obtain ⟨hkey, hrows⟩ := Prod.mk.inj hend
  have hpattern : masterApiKeyPattern pass.apiKey = true := by
    rw [hkey]
    decide
  have hkept := (key_never_stored .plain hw).2 0 pass 63900000002000000 none w' hpass hpattern hw'
  exact ⟨w, w', hw, hw', hrows, hkey ▸ hkept⟩

end SetuoraLite
