import Mathlib.Algebra.Order.BigOperators.Group.List
import SetuoraLite.Lib.JsonSize
import SetuoraLite.Sync.Baseline

/-!
# The parts of the baseline

`_partition_initial_inventory_items` fills one part after the other and never looks at
a finished request: it adds up the sizes of the items and the size of an empty request
with the longest sequence and a placeholder event id. The size it computes dominates
the request that `enqueue_outbox_event` builds, whatever its event id and sequence, so a
part that fits while it is packed is accepted when it is queued.

The loop is followed by `PackInv`: the closed parts and the open one, in order, are the
items so far; each fits under its own number; no closed part had room for the first item
of the next.
-/

namespace SetuoraLite

open Lib

/-! ## Sizes -/

/-- `str(uuid4())`: 36 characters, hexadecimal digits and hyphens. -/
def IsUuid (s : PyStr) : Prop :=
  s.length = 36 ∧ (s.all fun c => isDigit c || (97 ≤ c.val && c.val ≤ 102) || c == cp '-') = true

instance (s : PyStr) : Decidable (IsUuid s) := by
  unfold IsUuid
  exact inferInstance

/-- A size that is computed is the size of the text. -/
theorem canonicalSize_ok {v : Json} {n : Nat} : canonicalSize v = .ok n ↔
    TextSize v.sortKeys n := by
  unfold canonicalSize canonicalJson encodeText TextSize Utf8Size Json.dumps
  cases v.sortKeys.render with
  | none => simp [Bind.bind, Except.bind]
  | some t =>
    cases ht : encodeUtf8 t with
    | none => simp [Bind.bind, Except.bind, ht]
    | some bytes => simp [Bind.bind, Except.bind, ht]

/-- The request of a part, with its keys in order. -/
def sortedPart (uuid reference : PyStr) (sequence : Nat) (actor : Option PyStr)
    (occurredAt : Instant) (items : List Json) : Json :=
  .obj [(py "events", .arr [.obj [(py "actor", (optStr actor).sortKeys), (py "event_id", .str uuid),
    (py "items", .arr items), (py "occurred_at", .str (isoInstant occurredAt)),
    (py "reason_code", .str (py "INITIAL_ENROLLMENT")), (py "reference", .str reference),
    (py "schema_version", .int eventSchemaVersion), (py "sequence", .int sequence),
    (py "type", .str (py "STOCK_SNAPSHOT"))]])]

/-- The body of a request, its members sorted. -/
theorem requestBody_sorted (uuid reference : PyStr) (sequence : Nat) (actor : Option PyStr)
    (occurredAt : Instant) (items : List JsonDict) :
    (requestBody (frozenEvent uuid sequence (py "STOCK_SNAPSHOT") reference
        (initialInventoryPayload reference actor items).entries occurredAt
          eventSchemaVersion)).sortKeys
      = sortedPart uuid reference sequence actor occurredAt
          (Json.sortAll (items.map fun item => .obj item.entries)) := rfl

/-- A request without items becomes one with items, and other columns in its envelope. -/
private theorem sortedPart_grows {uuid uuid' reference reference' : PyStr}
    {sequence sequence' : Nat} {actor : Option PyStr} {occurredAt : Instant} {items : List Json}
    {sizes : List Nat} (huuid : Grows 0 (.str uuid) (.str uuid'))
    (hreference : Grows 0 (.str reference) (.str reference'))
    (hsequence : Grows 0 (.int sequence) (.int sequence'))
    (hitems : List.Forall₂ TextSize items sizes) :
    Grows (sizes.sum + (sizes.length - 1)) (sortedPart uuid reference sequence actor occurredAt [])
      (sortedPart uuid' reference' sequence' actor occurredAt items) := by
  have hmembers := MembersGrow.cons (k := py "actor") (.refl (optStr actor).sortKeys) <|
    .cons (k := py "event_id") huuid <|
    .cons (k := py "items") (.fill hitems) <|
    .cons (k := py "occurred_at") (.refl (.str (isoInstant occurredAt))) <|
    .cons (k := py "reason_code") (.refl (.str (py "INITIAL_ENROLLMENT"))) <|
    .cons (k := py "reference") hreference <|
    .cons (k := py "schema_version") (.refl (.int eventSchemaVersion)) <|
    .cons (k := py "sequence") hsequence <|
    .cons (k := py "type") (.refl (.str (py "STOCK_SNAPSHOT"))) .nil
  have hbody := MembersGrow.cons (k := py "events") hmembers.obj.singleton .nil
  simp only [Nat.zero_add, Nat.add_zero] at hbody
  exact hbody.obj

private theorem uuid_size {uuid : PyStr} (h : IsUuid uuid) : TextSize (.str uuid) 38 := by
  obtain ⟨hlen, hchars⟩ := h
  have hplain : ∀ c ∈ uuid, isPlain c = true := by
    intro c hc
    have hc := List.all_eq_true.mp hchars c hc
    rcases Bool.or_eq_true_iff.mp hc with halnum | hdash
    · rcases Bool.or_eq_true_iff.mp halnum with hdigit | hletter
      · exact isPlain_digit hdigit
      · simp only [Bool.and_eq_true, decide_eq_true_eq] at hletter
        have hquote : c ≠ cp '"' := by
          rintro rfl
          exact absurd hletter (by decide)
        have hslash : c ≠ cp '\\' := by
          rintro rfl
          exact absurd hletter (by decide)
        unfold isPlain
        simp only [Bool.and_eq_true, decide_eq_true_eq, bne_iff_ne, ne_eq]
        exact ⟨⟨⟨by omega, by omega⟩, hquote⟩, hslash⟩
    · obtain rfl := eq_of_beq hdash
      decide
  have hsize := utf8Size_strText hplain
  rw [hlen] at hsize
  exact ⟨_, rfl, hsize⟩

/-- The empty request that `_conservative_initial_inventory_body_size` measures. -/
def envelope (reference : PyStr) (actor : Option PyStr) (occurredAt : Instant) : Json :=
  sortedPart eventIdSizePlaceholder reference maxSqliteSequence actor occurredAt []

/-- The conservative size is that of the empty request, the items and the commas. -/
theorem conservative_ok {reference : PyStr} {actor : Option PyStr} {occurredAt : Instant}
    {sizes : List Nat} {n : Nat} :
    conservativeInitialInventoryBodySize reference actor occurredAt sizes = .ok n ↔
      ∃ e, TextSize (envelope reference actor occurredAt) e ∧
      n = e + sizes.sum + (sizes.length - 1) := by
  have hsize : conservativeInitialInventoryBodySize reference actor occurredAt sizes = (do
      let e ← canonicalSize (requestBody (frozenEvent eventIdSizePlaceholder maxSqliteSequence
        (py "STOCK_SNAPSHOT") reference
          (initialInventoryPayload reference actor []).entries occurredAt
        eventSchemaVersion))
      .ok (e + sizes.sum + (sizes.length - 1))) := by
    unfold conservativeInitialInventoryBodySize canonicalSize frozenEventJson
    cases canonicalJson (requestBody (frozenEvent eventIdSizePlaceholder maxSqliteSequence
        (py "STOCK_SNAPSHOT") reference
          (initialInventoryPayload reference actor []).entries occurredAt
        eventSchemaVersion)) with
    | error e => rfl
    | ok text =>
      show (do let bytes ← encodeText text; _) = (do let e ← (do let bytes ← encodeText text; _); _)
      cases encodeText text with
      | error e => rfl
      | ok bytes => rfl
  rw [hsize, except_bind_ok]
  constructor
  · rintro ⟨e, he, hn⟩
    exact ⟨e, canonicalSize_ok.mp he, (Except.ok.inj hn).symm⟩
  · rintro ⟨e, he, rfl⟩
    exact ⟨e, canonicalSize_ok.mpr he, rfl⟩

theorem conservative_nil {reference : PyStr} {actor : Option PyStr} {occurredAt : Instant}
    {e : Nat} :
    conservativeInitialInventoryBodySize reference actor occurredAt [] = .ok e ↔
      TextSize (envelope reference actor occurredAt) e := by
  rw [conservative_ok]
  simp

/-- A part fits: at most 5,000 items, and a conservative size within the limit. -/
def FitsConservatively (code : PyStr) (actor : Option PyStr) (occurredAt : Instant)
    (partNumber : Nat) (chunk : List JsonDict) : Prop :=
  chunk.length ≤ masterEventMaxItems ∧ ∃ sizes size,
    List.Forall₂ (fun (item : JsonDict) n => canonicalSize (.obj item.entries) = .ok n)
        chunk sizes ∧
    conservativeInitialInventoryBodySize (initialInventoryReference code partNumber) actor
      occurredAt sizes
      = .ok size ∧
    size ≤ masterEventMaxBodyBytes

/-- The items as they stand in the request. -/
private theorem items_sizes {chunk : List JsonDict} {sizes : List Nat}
    (h : List.Forall₂ (fun (item : JsonDict) n => canonicalSize (.obj item.entries) = .ok n)
        chunk sizes) :
    List.Forall₂ TextSize (Json.sortAll (chunk.map fun item => .obj item.entries)) sizes := by
  rw [Json.sortAll_eq_map, List.map_map, List.forall₂_map_left_iff]
  exact h.imp fun item n hn => canonicalSize_ok.mp hn

/-- A part that fits is accepted, under every event id and sequence. -/
theorem FitsConservatively.accepted {code : PyStr} {actor : Option PyStr} {occurredAt : Instant}
    {partNumber : Nat} {chunk : List JsonDict}
    (h : FitsConservatively code actor occurredAt partNumber chunk) {uuid : PyStr} {sequence : Nat}
    (huuid : IsUuid uuid) (hsequence : sequence ≤ maxSqliteSequence) :
    ∃ text bytes, canonicalJson (requestBody (requestedEvent uuid occurredAt
        (partRequest code actor occurredAt partNumber chunk) sequence)) = .ok text ∧
      encodeText text = .ok bytes ∧ bytes.length ≤ masterEventMaxBodyBytes ∧
      validateFrozenEventRequest text
        (itemCount (partRequest code actor occurredAt partNumber chunk).payload.entries) =
            .ok () := by
  obtain ⟨hcount, sizes, size, hsizes, hsize, hlimit⟩ := h
  obtain ⟨e, he, rfl⟩ := conservative_ok.mp hsize
  -- The longest sequence has nineteen digits.
  have hseq : Grows 0 (.int maxSqliteSequence) (.int sequence) := by
    have hlen : (decDigits maxSqliteSequence).length = 19 := by decide +kernel
    obtain ⟨hmax, -⟩ :=
      textSize_nat (n := maxSqliteSequence) (k := 19) (by omega) (by decide) (by decide)
    obtain ⟨hshort, hle⟩ := textSize_nat (n := sequence) (k := 19) (by omega) (by decide) (by
      unfold maxSqliteSequence at hsequence
      omega)
    exact .of_sizes hmax hshort (by omega)
  have hid : Grows 0 (.str eventIdSizePlaceholder) (.str uuid) :=
    .of_sizes (uuid_size (by decide)) (uuid_size huuid) (Nat.le_refl _)
  obtain ⟨n, ⟨text, htext, bytes, hbytes, rfl⟩, hn⟩ :=
    sortedPart_grows hid (.refl _) hseq (items_sizes hsizes) e he
  have hdumps : canonicalJson (requestBody (requestedEvent uuid occurredAt
      (partRequest code actor occurredAt partNumber chunk) sequence)) = .ok text := by
    have hsorted :=
      requestBody_sorted uuid (initialInventoryReference code partNumber) sequence actor
      occurredAt chunk
    have hrender : (requestBody (requestedEvent uuid occurredAt
        (partRequest code actor occurredAt partNumber chunk) sequence)).dumps = some text := by
      unfold Json.dumps
      exact (congrArg Json.render hsorted).trans htext
    unfold canonicalJson
    rw [hrender]
  have hencode : encodeText text = .ok bytes := by
    unfold encodeText
    rw [hbytes]
  have hcount' : itemCount (partRequest code actor occurredAt partNumber chunk).payload.entries
      = chunk.length := List.length_map _
  refine ⟨text, bytes, hdumps, hencode, by omega, ?_⟩
  unfold validateFrozenEventRequest
  rw [hencode, hcount']
  show (if masterEventMaxItems < chunk.length then _ else _) = _
  rw [if_neg (by omega), if_neg (by omega)]

/-! ## The packing loop -/

section Loop

variable {code : PyStr} {actor : Option PyStr} {occurredAt : Instant}

/-- Each part fits, and no part had room for the first item of the next. -/
structure Packed (code : PyStr) (actor : Option PyStr) (occurredAt : Instant)
    (chunks : List (List JsonDict)) : Prop where
  fits : ∀ i chunk, chunks[i]? = some chunk →
    chunk ≠ [] ∧ FitsConservatively code actor occurredAt (i + 1) chunk
  full : ∀ i chunk next rest, chunks[i]? = some chunk → chunks[i + 1]? = some (next :: rest) →
    ¬ FitsConservatively code actor occurredAt (i + 1) (chunk ++ [next])

theorem Packed.nil : Packed code actor occurredAt [] :=
  ⟨fun i chunk h => absurd h (by simp), fun i chunk next rest h => absurd h (by simp)⟩

private theorem getElem?_snoc {α : Type} {xs : List α} {x y : α} {i : Nat}
    (h : (xs ++ [x])[i]? = some y) : xs[i]? = some y ∨ (i = xs.length ∧ x = y) := by
  by_cases hi : i < xs.length
  · rw [List.getElem?_append_left hi] at h
    exact Or.inl h
  · rw [List.getElem?_append_right (by omega)] at h
    obtain ⟨hlt, hy⟩ := List.getElem?_eq_some_iff.mp h
    have hlen : i - xs.length < 1 := hlt
    refine Or.inr ⟨by omega, ?_⟩
    simpa using hy

/-- A part is closed and the next one opened. -/
theorem Packed.snoc {chunks : List (List JsonDict)} {last : List JsonDict}
    (h : Packed code actor occurredAt chunks) (hne : last ≠ [])
    (hfits : FitsConservatively code actor occurredAt (chunks.length + 1) last)
    (hfull : ∀ i prev next rest, i + 1 = chunks.length → chunks[i]? = some prev →
      last = next :: rest →
      ¬ FitsConservatively code actor occurredAt (i + 1) (prev ++ [next])) :
    Packed code actor occurredAt (chunks ++ [last]) := by
  refine ⟨?_, ?_⟩
  · intro i chunk hi
    rcases getElem?_snoc hi with hold | ⟨rfl, rfl⟩
    · exact h.fits i chunk hold
    · exact ⟨hne, hfits⟩
  · intro i chunk next rest hi hnext
    rcases getElem?_snoc hnext with hold | ⟨hlast, hrest⟩
    · have hlt := (List.getElem?_eq_some_iff.mp hold).1
      rw [List.getElem?_append_left (by omega)] at hi
      exact h.full i chunk next rest hi hold
    · rw [List.getElem?_append_left (by omega)] at hi
      exact hfull i chunk next rest hlast hi hrest

/-- The closed parts before the last one, and what closed them. -/
theorem Packed.unsnoc {chunks : List (List JsonDict)} {last : List JsonDict}
    (h : Packed code actor occurredAt (chunks ++ [last])) :
    Packed code actor occurredAt chunks ∧
      ∀ i prev next rest, i + 1 = chunks.length → chunks[i]? = some prev → last = next :: rest →
        ¬ FitsConservatively code actor occurredAt (i + 1) (prev ++ [next]) := by
  have hat : ∀ (i : Nat) (chunk : List JsonDict), chunks[i]? = some chunk →
      (chunks ++ [last])[i]? = some chunk := by
    intro i chunk hi
    rw [List.getElem?_append_left (List.getElem?_eq_some_iff.mp hi).1]
    exact hi
  refine ⟨⟨fun i chunk hi => h.fits i chunk (hat i chunk hi), ?_⟩, ?_⟩
  · exact fun i chunk next rest hi hnext =>
      h.full i chunk next rest (hat i chunk hi) (hat _ _ hnext)
  · intro i prev next rest hlen hi hlast
    refine h.full i prev next rest (hat i prev hi) ?_
    rw [hlen, List.getElem?_append_right (Nat.le_refl _), Nat.sub_self, hlast]
    rfl

/-- The parts so far, the open one last. -/
def Packing.parts (s : Packing) : List (List JsonDict) :=
  if s.currentItems.isEmpty then s.chunks else s.chunks ++ [s.currentItems]

/-- The state of the loop after the items `seen`. -/
structure PackInv (code : PyStr) (actor : Option PyStr) (occurredAt : Instant) (s : Packing)
    (seen : List JsonDict) : Prop where
  concat : s.chunks.flatten ++ s.currentItems = seen
  part : s.partNumber = s.chunks.length + 1
  envelope : TextSize (envelope (initialInventoryReference code s.partNumber) actor occurredAt)
    s.envelopeSize
  content : ∃ sizes,
    List.Forall₂ (fun (item : JsonDict) n => canonicalSize (.obj item.entries) = .ok n)
    s.currentItems sizes ∧ s.currentContentSize = sizes.sum + (sizes.length - 1)
  packed : Packed code actor occurredAt s.parts
  first : s.currentItems = [] → s.chunks = []

/-- The conservative size of a part that is described by its items' sizes. -/
private theorem fits_iff {partNumber e : Nat} {chunk : List JsonDict} {sizes : List Nat}
    (he : TextSize
      (SetuoraLite.envelope (initialInventoryReference code partNumber) actor occurredAt) e)
    (hsizes : List.Forall₂ (fun (item : JsonDict) n => canonicalSize (.obj item.entries) = .ok n)
      chunk sizes) :
    FitsConservatively code actor occurredAt partNumber chunk ↔
      chunk.length ≤ masterEventMaxItems ∧
        e + sizes.sum + (sizes.length - 1) ≤ masterEventMaxBodyBytes := by
  constructor
  · rintro ⟨hcount, sizes', size, hsizes', hsize, hlimit⟩
    have hsame : sizes' = sizes := by
      clear * - hsizes hsizes'
      induction hsizes generalizing sizes' with
      | nil => exact List.forall₂_nil_left_iff.mp hsizes'
      | cons hitem _ ih =>
        obtain ⟨n, rest, hn, hrest, rfl⟩ := List.forall₂_cons_left_iff.mp hsizes'
        rw [ih rest hrest, Except.ok.inj (hn.symm.trans hitem)]
    obtain ⟨e', he', rfl⟩ := conservative_ok.mp hsize
    rw [he'.unique he, hsame] at hlimit
    exact ⟨hcount, hlimit⟩
  · rintro ⟨hcount, hlimit⟩
    exact ⟨hcount, sizes, _, hsizes, conservative_ok.mpr ⟨e, he, rfl⟩, hlimit⟩

/-- The first round, or a round that found room in the open part. -/
private theorem packInv_append {s : Packing} {seen : List JsonDict} {item : JsonDict}
    {itemSize : Nat} (h : PackInv code actor occurredAt s seen)
    (hitem : canonicalSize (.obj item.entries) = .ok itemSize)
    (hroom : s.currentItems.length + 1 ≤ masterEventMaxItems ∧
      s.envelopeSize + s.currentContentSize + (itemSize + if s.currentItems.isEmpty then 0 else 1)
        ≤ masterEventMaxBodyBytes) :
    PackInv code actor occurredAt { s with
      currentItems := s.currentItems ++ [item]
      currentContentSize :=
        s.currentContentSize + (itemSize + if s.currentItems.isEmpty then 0 else 1) }
      (seen ++ [item]) := by
  obtain ⟨sizes, hsizes, hcontent⟩ := h.content
  have hsizes' : List.Forall₂ (fun (item : JsonDict) n => canonicalSize (.obj item.entries) = .ok n)
      (s.currentItems ++ [item]) (sizes ++ [itemSize]) :=
    List.rel_append hsizes (List.Forall₂.cons hitem .nil)
  have hlen : sizes.length = s.currentItems.length := hsizes.length_eq.symm
  have hcontent' : s.currentContentSize + (itemSize + if s.currentItems.isEmpty then 0 else 1)
      = (sizes ++ [itemSize]).sum + ((sizes ++ [itemSize]).length - 1) := by
    rw [hcontent, List.sum_append, List.sum_singleton, List.length_append,
      List.length_singleton, hlen]
    cases hitems : s.currentItems with
    | nil =>
      rw [hitems] at hlen
      simp [List.length_eq_zero_iff.mp hlen]
    | cons x xs =>
      simp only [List.isEmpty_cons, Bool.false_eq_true, if_false, List.length_cons]
      omega
  have hfits : FitsConservatively code actor occurredAt (s.chunks.length + 1)
      (s.currentItems ++ [item]) := by
    rw [← h.part]
    refine (fits_iff h.envelope hsizes').mpr ⟨by simpa using hroom.1, ?_⟩
    have := hroom.2
    omega
  have hparts : ∀ (t : Packing), t.currentItems = s.currentItems ++ [item] →
      t.parts = t.chunks ++ [s.currentItems ++ [item]] := by
    intro t ht
    unfold Packing.parts
    rw [ht, if_neg (by simp)]
  refine ⟨by rw [← h.concat, List.append_assoc], h.part, h.envelope, ⟨_, hsizes', hcontent'⟩, ?_,
    fun he => absurd he (by simp)⟩
  rw [hparts _ rfl]
  by_cases hempty : s.currentItems = []
  · rw [h.first hempty] at hfits ⊢
    exact Packed.nil.snoc (by simp) hfits fun i prev next rest hlen => absurd hlen (by simp)
  · -- The part before the open one was closed by the same first item.
    have hold := h.packed
    unfold Packing.parts at hold
    rw [if_neg (by simpa using hempty)] at hold
    obtain ⟨hclosed, hfull⟩ := hold.unsnoc
    refine hclosed.snoc (by simp) hfits fun i prev next rest hlen hprev hlast => ?_
    obtain ⟨x, xs, hitems⟩ := List.exists_cons_of_ne_nil hempty
    rw [hitems, List.cons_append] at hlast
    obtain ⟨rfl, -⟩ := List.cons.inj hlast
    exact hfull i prev x xs hlen hprev hitems

/-- A round that closed the open part. -/
private theorem packInv_close {s : Packing} {seen : List JsonDict} {item : JsonDict}
    {itemSize envelopeSize : Nat} (h : PackInv code actor occurredAt s seen)
    (hitem : canonicalSize (.obj item.entries) = .ok itemSize) (hne : s.currentItems ≠ [])
    (hfull : ¬ (s.currentItems.length + 1 ≤ masterEventMaxItems ∧
      s.envelopeSize + s.currentContentSize + (itemSize + 1) ≤ masterEventMaxBodyBytes))
    (henvelope : TextSize
      (envelope (initialInventoryReference code (s.partNumber + 1)) actor occurredAt)
      envelopeSize)
    (hroom : envelopeSize + itemSize ≤ masterEventMaxBodyBytes) :
    PackInv code actor occurredAt
      ⟨s.chunks ++ [s.currentItems], [item], itemSize, s.partNumber + 1, envelopeSize⟩
      (seen ++ [item]) := by
  -- The open part is closed as it stands, and the item opens the next one.
  obtain ⟨sizes, hsizes, hcontent⟩ := h.content
  have hpacked := h.packed
  unfold Packing.parts at hpacked
  rw [if_neg (by simpa using hne)] at hpacked
  have hlen : sizes.length = s.currentItems.length := hsizes.length_eq.symm
  have hpos : 0 < s.currentItems.length := List.length_pos_iff.mpr hne
  have hone : List.Forall₂ (fun (item : JsonDict) n => canonicalSize (.obj item.entries) = .ok n)
      [item] [itemSize] := .cons hitem .nil
  refine ⟨?_, ?_, henvelope, ⟨[itemSize], hone, by simp⟩, ?_, fun he => absurd he (by simp)⟩
  · simp [← h.concat]
  · rw [h.part, List.length_append, List.length_singleton]
  · unfold Packing.parts
    dsimp only
    rw [if_neg (by simp)]
    -- The part that closes is followed by an item that did not fit.
    refine hpacked.snoc (by simp) ?_ ?_
    · rw [List.length_append, List.length_singleton, ← h.part]
      exact (fits_iff henvelope hone).mpr ⟨Nat.le_add_left 1 4999, by simpa using hroom⟩
    · intro i prev next rest hi hprev hnext
      obtain ⟨rfl, -⟩ := List.cons.inj hnext
      rw [List.length_append, List.length_singleton] at hi
      rcases getElem?_snoc hprev with hlt | ⟨rfl, rfl⟩
      · have := (List.getElem?_eq_some_iff.mp hlt).1
        omega
      · rw [← h.part, fits_iff h.envelope (List.rel_append hsizes hone)]
        intro hfits
        refine hfull ⟨by simpa using hfits.1, ?_⟩
        have := hfits.2
        rw [List.sum_append, List.sum_singleton, List.length_append, List.length_singleton] at this
        omega

/-- One round. -/
private theorem packItem_inv {s s' : Packing} {seen : List JsonDict} {item : JsonDict}
    (h : PackInv code actor occurredAt s seen)
    (hstep : packItem code actor occurredAt s item = .ok s') :
    PackInv code actor occurredAt s' (seen ++ [item]) := by
  unfold packItem at hstep
  obtain ⟨itemSize, hitem, hstep⟩ := except_bind_ok.mp hstep
  by_cases hclose : s.currentItems.isEmpty = false ∧
    ¬ (s.currentItems.length + 1 ≤ masterEventMaxItems ∧
      s.envelopeSize + s.currentContentSize + (itemSize + if s.currentItems.isEmpty then 0 else 1)
        ≤ masterEventMaxBodyBytes)
  · rw [if_pos hclose] at hstep
    obtain ⟨hne, hfull⟩ := hclose
    obtain ⟨envelopeSize, henvelope, hstep⟩ := except_bind_ok.mp hstep
    have he := conservative_nil.mp henvelope
    unfold Packing.place at hstep
    split at hstep
    · exact absurd hstep (by simp)
    · next hroom =>
      obtain rfl := Except.ok.inj hstep
      rw [hne] at hfull
      have hroom' : envelopeSize + itemSize ≤ masterEventMaxBodyBytes := by
        by_contra hbig
        exact hroom ⟨rfl, Nat.lt_of_not_le hbig⟩
      have hinv := packInv_close h hitem (by simpa using hne) hfull he hroom'
      simpa using hinv
  · rw [if_neg hclose] at hstep
    unfold Packing.place at hstep
    split at hstep
    · exact absurd hstep (by simp)
    · next hroom =>
      obtain rfl := Except.ok.inj hstep
      refine packInv_append h hitem ?_
      by_cases hempty : s.currentItems.isEmpty = true
      · -- An empty part takes the item when the item alone fits.
        have hnil : s.currentItems = [] := List.isEmpty_iff.mp hempty
        obtain ⟨sizes, hsizes, hcontent⟩ := h.content
        rw [hnil] at hsizes
        obtain rfl := List.forall₂_nil_left_iff.mp hsizes
        have hzero : s.currentContentSize = 0 := by simpa using hcontent
        rw [hempty, hnil, hzero]
        refine ⟨by decide, ?_⟩
        by_contra hbig
        exact hroom ⟨hempty, by simp only [if_true] at hbig; omega⟩
      · by_contra hfull
        exact hclose ⟨by simpa using hempty, hfull⟩

private theorem foldlM_packItem_inv {items : List JsonDict} :
    ∀ {s s' : Packing} {seen : List JsonDict}, PackInv code actor occurredAt s seen →
      items.foldlM (packItem code actor occurredAt) s = .ok s' →
      PackInv code actor occurredAt s' (seen ++ items) := by
  induction items with
  | nil =>
    intro s s' seen hI h
    obtain rfl := Except.ok.inj h
    rwa [List.append_nil]
  | cons item items ih =>
    intro s s' seen hI h
    rw [List.foldlM_cons] at h
    obtain ⟨t, hitem, h⟩ := except_bind_ok.mp h
    have := ih (packItem_inv hI hitem) h
    rwa [List.append_assoc] at this

/-- What the partition of a list of items is. -/
theorem partition_packed {items : List JsonDict} {chunks : List (List JsonDict)}
    (h : partitionInitialInventoryItems items code actor occurredAt = .ok chunks) :
    chunks.flatten = items ∧ Packed code actor occurredAt chunks := by
  unfold partitionInitialInventoryItems at h
  obtain ⟨envelopeSize, henvelope, h⟩ := except_bind_ok.mp h
  obtain ⟨s, hfold, h⟩ := except_bind_ok.mp h
  have he := conservative_nil.mp henvelope
  have hstart : PackInv code actor occurredAt ⟨[], [], 0, 1, envelopeSize⟩ [] :=
    ⟨rfl, rfl, he, ⟨[], .nil, rfl⟩, Packed.nil, fun _ => rfl⟩
  have hinv := foldlM_packItem_inv hstart hfold
  obtain rfl : s.parts = chunks := Except.ok.inj h
  refine ⟨?_, hinv.packed⟩
  have hconcat := hinv.concat
  unfold Packing.parts
  by_cases hempty : s.currentItems.isEmpty = true
  · rw [if_pos hempty]
    rw [List.isEmpty_iff.mp hempty, List.append_nil] at hconcat
    exact hconcat
  · rw [if_neg hempty, List.flatten_append]
    simpa using hconcat

/-- A part with a higher number has no more room. -/
private theorem FitsConservatively.earlier {m n : Nat} {chunk : List JsonDict}
    (h : FitsConservatively code actor occurredAt n chunk) (hmn : m ≤ n) :
    FitsConservatively code actor occurredAt m chunk := by
  obtain ⟨hcount, sizes, size, hsizes, hsize, hlimit⟩ := h
  obtain ⟨e, he, rfl⟩ := conservative_ok.mp hsize
  obtain ⟨e', he', hle⟩ :=
    sortedPart_grows (.refl _) (.digits _ (decDigits_length_mono hmn)) (.refl _) .nil e he
  refine ⟨hcount, sizes, _, hsizes, conservative_ok.mpr ⟨e', he', rfl⟩, ?_⟩
  simp only [List.sum_nil, List.length_nil] at hle
  omega

/-- Each item of a part that fits would fit alone. -/
private theorem FitsConservatively.single {partNumber : Nat} {chunk : List JsonDict}
    {item : JsonDict} (h : FitsConservatively code actor occurredAt partNumber chunk)
    (hitem : item ∈ chunk) :
    FitsConservatively code actor occurredAt partNumber [item] := by
  obtain ⟨-, sizes, size, hsizes, hsize, hlimit⟩ := h
  obtain ⟨e, he, rfl⟩ := conservative_ok.mp hsize
  have hone : ∃ n, canonicalSize (.obj item.entries) = .ok n ∧ n ≤ sizes.sum := by
    clear * - hsizes hitem
    induction hsizes with
    | nil => exact absurd hitem List.not_mem_nil
    | cons hn _ ih =>
      rcases List.mem_cons.mp hitem with rfl | hrest
      · exact ⟨_, hn, by simp⟩
      · obtain ⟨n, hsize, hle⟩ := ih hrest
        refine ⟨n, hsize, ?_⟩
        rw [List.sum_cons]
        omega
  obtain ⟨n, hn, hle⟩ := hone
  refine ⟨Nat.le_add_left 1 4999, [n], _, .cons hn .nil, conservative_ok.mpr ⟨e, he, rfl⟩, ?_⟩
  simp only [List.sum_cons, List.sum_nil, List.length_cons, List.length_nil]
  omega

/-- What an item needs to fit alone. -/
private theorem fits_single {n : Nat} {item : JsonDict}
    (h : FitsConservatively code actor occurredAt n [item]) :
    ∃ size e, canonicalSize (.obj item.entries) = .ok size ∧
      TextSize (SetuoraLite.envelope (initialInventoryReference code n) actor occurredAt) e ∧
      e + size ≤ masterEventMaxBodyBytes := by
  obtain ⟨-, sizes, size, hsizes, hsize, hlimit⟩ := h
  obtain ⟨e, he, rfl⟩ := conservative_ok.mp hsize
  obtain ⟨itemSize, rest, hitem, hrest, rfl⟩ := List.forall₂_cons_left_iff.mp hsizes
  obtain rfl := List.forall₂_nil_left_iff.mp hrest
  refine ⟨itemSize, e, hitem, he, ?_⟩
  simpa using hlimit

/-- A round goes on when its item fits alone, in the open part and in the next one. -/
private theorem packItem_total {s : Packing} {seen : List JsonDict} {item : JsonDict}
    (h : PackInv code actor occurredAt s seen)
    (hfits : FitsConservatively code actor occurredAt (s.partNumber + 1) [item]) :
    ∃ s', packItem code actor occurredAt s item = .ok s' ∧ s'.partNumber ≤ s.partNumber + 1 := by
  obtain ⟨itemSize, e, hitem, he, hnext⟩ := fits_single hfits
  obtain ⟨itemSize', e', hitem', he', hopen⟩ := fits_single (hfits.earlier (Nat.le_succ _))
  obtain rfl := Except.ok.inj (hitem'.symm.trans hitem)
  obtain rfl := he'.unique h.envelope
  unfold packItem
  rw [hitem]
  simp only [Bind.bind, Except.bind]
  by_cases hclose : s.currentItems.isEmpty = false ∧
    ¬ (s.currentItems.length + 1 ≤ masterEventMaxItems ∧
      s.envelopeSize + s.currentContentSize + (itemSize' + if s.currentItems.isEmpty then 0 else 1)
        ≤ masterEventMaxBodyBytes)
  · -- The open part is closed, and the next one takes the item.
    rw [if_pos hclose, conservative_nil.mpr he]
    refine ⟨_, if_neg ?_, Nat.le_refl _⟩
    exact fun hbig => absurd hbig.2 (Nat.not_lt.mpr hnext)
  · rw [if_neg hclose]
    refine ⟨_, if_neg ?_, Nat.le_succ _⟩
    exact fun hbig => absurd hbig.2 (Nat.not_lt.mpr hopen)

private theorem foldlM_packItem_total {items : List JsonDict} :
    ∀ {s : Packing} {seen : List JsonDict}, PackInv code actor occurredAt s seen →
      (∀ item ∈ items,
        FitsConservatively code actor occurredAt (s.partNumber + items.length) [item]) →
      ∃ s', items.foldlM (packItem code actor occurredAt) s = .ok s' := by
  induction items with
  | nil => exact fun {s} _ _ _ => ⟨s, rfl⟩
  | cons item items ih =>
    intro s seen hI hfits
    have hlength : (item :: items).length = items.length + 1 := rfl
    obtain ⟨t, hstep, hpart⟩ := packItem_total hI
      ((hfits item List.mem_cons_self).earlier (by omega))
    obtain ⟨s', hrest⟩ := ih (packItem_inv hI hstep) fun other hother =>
      (hfits other (List.mem_cons_of_mem item hother)).earlier (by omega)
    refine ⟨s', ?_⟩
    rw [List.foldlM_cons, hstep]
    exact hrest

/-- Items are partitioned when each fits alone, whatever the number of its part. -/
theorem partition_total {items : List JsonDict} (hne : items ≠ [])
    (h : ∀ item ∈ items, FitsConservatively code actor occurredAt (items.length + 1) [item]) :
    ∃ chunks, partitionInitialInventoryItems items code actor occurredAt = .ok chunks := by
  obtain ⟨item, hitem⟩ := List.exists_mem_of_ne_nil items hne
  obtain ⟨-, e, -, he, -⟩ := fits_single ((h item hitem).earlier (Nat.le_add_left 1 _))
  have hstart : PackInv code actor occurredAt ⟨[], [], 0, 1, e⟩ [] :=
    ⟨rfl, rfl, he, ⟨[], .nil, rfl⟩, Packed.nil, fun _ => rfl⟩
  obtain ⟨s, hfold⟩ := foldlM_packItem_total hstart fun item hitem =>
    (h item hitem).earlier (by simp only [Nat.add_comm, Nat.le_refl])
  unfold partitionInitialInventoryItems
  rw [conservative_nil.mpr he]
  simp only [Bind.bind, Except.bind]
  rw [hfold]
  exact ⟨_, rfl⟩

end Loop

/-- The partition is lossless, every part of it is accepted under any event id and
sequence, a part is closed for want of room only; and an item that does not fit alone
makes the baseline fail before anything is queued. -/
theorem baseline_partition (items : List JsonDict) (code : PyStr) (actor : Option PyStr)
    (occurredAt : Instant) :
    (∀ chunks, partitionInitialInventoryItems items code actor occurredAt = .ok chunks →
      chunks.flatten = items ∧
      (∀ i chunk, chunks[i]? = some chunk → chunk ≠ [] ∧ chunk.length ≤ masterEventMaxItems ∧
        ∀ uuid sequence, IsUuid uuid → sequence ≤ maxSqliteSequence →
          ∃ text bytes, canonicalJson (requestBody (requestedEvent uuid occurredAt
              (partRequest code actor occurredAt (i + 1) chunk) sequence)) = .ok text ∧
            encodeText text = .ok bytes ∧ bytes.length ≤ masterEventMaxBodyBytes ∧
            validateFrozenEventRequest text
              (itemCount (partRequest code actor occurredAt (i + 1) chunk).payload.entries) =
                  .ok ()) ∧
      (∀ i chunk next rest, chunks[i]? = some chunk → chunks[i + 1]? = some (next :: rest) →
        ¬ FitsConservatively code actor occurredAt (i + 1) (chunk ++ [next]))) ∧
    (∀ item ∈ items, ¬ FitsConservatively code actor occurredAt 1 [item] →
      ∃ e, partitionInitialInventoryItems items code actor occurredAt = .error e) ∧
    (∀ e, items ≠ [] → partitionInitialInventoryItems items code actor occurredAt = .error e →
      ∀ st uuids db,
      enqueueInitialInventory st uuids code actor occurredAt items db = (.error e, db)) := by
  refine ⟨fun chunks h => ?_, fun item hitem hbig => ?_, fun e hne h st uuids db => ?_⟩
  · obtain ⟨hflatten, hpacked⟩ := partition_packed h
    refine ⟨hflatten, fun i chunk hi => ?_, hpacked.full⟩
    obtain ⟨hne, hfits⟩ := hpacked.fits i chunk hi
    exact ⟨hne, hfits.1, fun uuid sequence huuid hsequence => hfits.accepted huuid hsequence⟩
  · cases h : partitionInitialInventoryItems items code actor occurredAt with
    | error e => exact ⟨e, rfl⟩
    | ok chunks =>
      -- The item would be in some part, which fits.
      obtain ⟨hflatten, hpacked⟩ := partition_packed h
      rw [← hflatten] at hitem
      obtain ⟨chunk, hchunk, hin⟩ := List.mem_flatten.mp hitem
      obtain ⟨i, hi⟩ := List.mem_iff_getElem?.mp hchunk
      exact absurd (((hpacked.fits i chunk hi).2.single hin).earlier (Nat.le_add_left 1 i)) hbig
  · unfold enqueueInitialInventory
    rw [if_neg (by simpa using hne), h]
    rfl

/-! ## Witness -/

/-- An item with a serial number only. -/
def numberItem (number : PyStr) : JsonDict where
  entries := [(py "serial_number", .str number)]
  wf := ⟨by simp [dictKeys], trivial, trivial⟩

/-- The stock of a node with twelve thousand serials. -/
def manyItems : List JsonDict := (List.range 12000).map fun n => numberItem (py "S-" ++ decDigits n)

private theorem manyItems_length : manyItems.length = 12000 := by
  rw [manyItems, List.length_map, List.length_range]

private theorem manyItems_fit {item : JsonDict} (h : item ∈ manyItems) :
    FitsConservatively (py "HOME") (some (py "owner")) 0 (manyItems.length + 1) [item] := by
  obtain ⟨n, hn, rfl⟩ := List.mem_map.mp h
  -- No item is longer than that of the number 12000, whose size is computed.
  have hlast : canonicalSize (.obj (numberItem (py "S-" ++ decDigits 12000)).entries) = .ok 27 := by
    decide +kernel
  have hgrows := (MembersGrow.cons (k := py "serial_number")
    (.digits (py "S-") (decDigits_length_mono (List.mem_range.mp hn).le)) .nil).obj
  obtain ⟨size, hsize, hle⟩ := hgrows 27 (canonicalSize_ok.mp hlast)
  have henvelope : conservativeInitialInventoryBodySize
      (initialInventoryReference (py "HOME") 12001)
      (some (py "owner")) 0 [] = .ok 290 := by
    decide +kernel
  rw [manyItems_length]
  refine ⟨Nat.le_add_left 1 4999, [size], _, .cons (canonicalSize_ok.mpr hsize) .nil,
    conservative_ok.mpr ⟨290, conservative_nil.mp henvelope, rfl⟩, ?_⟩
  simp only [List.sum_cons, List.sum_nil, List.length_cons, List.length_nil,
    masterEventMaxBodyBytes]
  omega

/-- The partition of twelve thousand items has several parts, each of which is accepted. -/
theorem baseline_partition_home :
    ∃ chunks, partitionInitialInventoryItems manyItems (py "HOME") (some (py "owner")) 0 =
        .ok chunks ∧
      chunks.flatten = manyItems ∧ 3 ≤ chunks.length ∧
      ∀ i chunk, chunks[i]? = some chunk →
        ∃ text bytes, canonicalJson (requestBody (requestedEvent
            (py "3f2504e0-4f89-41d3-9a0c-0305e82c3301") 0
            (partRequest (py "HOME") (some (py "owner")) 0 (i + 1) chunk) 7)) = .ok text ∧
          encodeText text = .ok bytes ∧ bytes.length ≤ masterEventMaxBodyBytes := by
  obtain ⟨chunks, hrun⟩ :=
    partition_total (List.ne_nil_of_length_pos (by rw [manyItems_length]; decide)) fun _ =>
    manyItems_fit
  obtain ⟨hflatten, hchunks, -⟩ :=
    (baseline_partition manyItems (py "HOME") (some (py "owner")) 0).1 chunks hrun
  refine ⟨chunks, hrun, hflatten, ?_, fun i chunk hi => ?_⟩
  · -- Each part has five thousand items at most.
    have hsum : (chunks.map List.length).sum ≤
        (chunks.map List.length).length • masterEventMaxItems := by
      refine List.sum_le_card_nsmul _ _ fun n hn => ?_
      obtain ⟨chunk, hchunk, rfl⟩ := List.mem_map.mp hn
      obtain ⟨i, hi⟩ := List.mem_iff_getElem?.mp hchunk
      exact (hchunks i chunk hi).2.1
    rw [← List.length_flatten, hflatten, manyItems_length, List.length_map, nsmul_eq_mul,
      masterEventMaxItems,
      Nat.cast_id] at hsum
    omega
  · obtain ⟨text, bytes, htext, hbytes, hlimit, -⟩ :=
      (hchunks i chunk hi).2.2 (py "3f2504e0-4f89-41d3-9a0c-0305e82c3301") 7 (by decide) (by decide)
    exact ⟨text, bytes, htext, hbytes, hlimit⟩

end SetuoraLite
