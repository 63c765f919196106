import SetuoraLite.Lib.Table
import SetuoraLite.Store.Models

/-!
# Deliveries

Transfers and their items without times, products and people: what has to be true of them,
of the serials on the road and of what Master was told, in every state of a node. `Moved` and
`Accounted` say it, and `Step` is what a transaction does to deliveries.

Main results: `Step.moved` and `Step.accounted` — one step keeps both.
-/

namespace SetuoraLite

open Lib

/-! ## Deliveries -/

/-- A transfer. -/
structure Delivery where
  id : Nat
  uuid : PyStr
  direction : TransferDirection
  status : TransferStatus
  code : PyStr

/-- An item of a transfer. -/
structure Parcel where
  id : Nat
  deliveryId : Nat
  serialId : Option Nat
  number : PyStr
  received : Bool

/-- What Master was told of transfers. -/
structure Told where
  announced : List (PyStr × PyStr × PyStr)
  dispatches : List PyStr
  reported : List (PyStr × PyStr)

/-- The transfers of a node, their items, the serials on the road, and what Master was told. -/
structure Deliveries where
  transfers : List Delivery
  parcels : List Parcel
  road : Set Nat
  told : Told

/-- The status of a transfer that nothing has arrived of. -/
def TransferDirection.start : TransferDirection → TransferStatus
  | .outbound => .dispatched
  | .inbound => .awaitingReceipt

namespace Delivery

/-- The transfer with the id gets the status. -/
def settle (id : Nat) (status : TransferStatus) (t : Delivery) : Delivery :=
  if t.id = id then { t with status := status } else t

variable {id : Nat} {status : TransferStatus} {t : Delivery}

@[simp] theorem settle_id : (t.settle id status).id = t.id := by
  unfold settle
  split <;> rfl

@[simp] theorem settle_uuid : (t.settle id status).uuid = t.uuid := by
  unfold settle
  split <;> rfl

@[simp] theorem settle_direction : (t.settle id status).direction = t.direction := by
  unfold settle
  split <;> rfl

@[simp] theorem settle_code : (t.settle id status).code = t.code := by
  unfold settle
  split <;> rfl

/-- Only the delivery with the id gets the status. -/
theorem settle_status : (t.settle id status).status = if t.id = id then status else t.status := by
  unfold settle
  split <;> rfl

/-- Every other delivery stays. -/
theorem settle_of_ne (h : t.id ≠ id) : t.settle id status = t := if_neg h

/-- A transfer that gets another status than a draft's is no draft. -/
theorem settle_left (h : status ≠ .draft) :
    (t.settle id status).status ≠ .draft ↔ t.id = id ∨ t.status ≠ .draft := by
  rw [settle_status]
  by_cases hid : t.id = id <;> simp [hid, h]

end Delivery

namespace Parcel

/-- The items of the transfer that are marked are received. -/
def mark (id : Nat) (marked : Parcel → Bool) (p : Parcel) : Parcel :=
  if p.deliveryId = id ∧ marked p = true then { p with received := true } else p

variable {id : Nat} {marked : Parcel → Bool} {p : Parcel}

@[simp] theorem mark_deliveryId : (p.mark id marked).deliveryId = p.deliveryId := by
  unfold mark
  split <;> rfl

@[simp] theorem mark_number : (p.mark id marked).number = p.number := by
  unfold mark
  split <;> rfl

/-- What is received stays received, and what is marked becomes it. -/
theorem mark_received : (p.mark id marked).received = true ↔
    p.received = true ∨ p.deliveryId = id ∧ marked p = true := by
  unfold mark
  split <;> simp_all

/-- Parcels of other deliveries stay. -/
theorem mark_of_ne (h : p.deliveryId ≠ id) : p.mark id marked = p := if_neg fun hboth => h hboth.1

/-- Nothing is marked. -/
theorem mark_none : p.mark id (fun _ => false) = p := if_neg fun hboth => Bool.false_ne_true hboth.2

end Parcel

namespace Deliveries

/-- The item is one of the transfer. -/
structure Of (d : Deliveries) (t : Delivery) (p : Parcel) : Prop where
  transfer : t ∈ d.transfers
  mem : p ∈ d.parcels
  own : p.deliveryId = t.id

/-- The item is on its way: its transfer has left, and it has not arrived. -/
def Rides (d : Deliveries) (p : Parcel) : Prop :=
  ∃ t, d.Of t p ∧ t.status ≠ .draft ∧ p.received = false

/-- What the tables ensure of rows. -/
structure Keys (d : Deliveries) : Prop where
  ids : (d.transfers.map (·.id)).Nodup
  uuids : (d.transfers.map (·.uuid)).Nodup
  numbers : (d.parcels.map fun p => (p.deliveryId, p.number)).Nodup
  /-- Every item is for a serial, and items for one serial carry its number. -/
  serial : ∀ p ∈ d.parcels, ∃ id, p.serialId = some id
  serialNumbers : ∀ p ∈ d.parcels, ∀ q ∈ d.parcels, p.serialId = q.serialId → p.number = q.number
  home : ∀ p ∈ d.parcels, ∃ t ∈ d.transfers, t.id = p.deliveryId

/-- The status of a transfer says how much of it has arrived. -/
inductive Shows (d : Deliveries) (t : Delivery) : Prop
  | draft (hdirection : t.direction = .outbound) (hstatus : t.status = .draft)
      (hnone : ∀ p, d.Of t p → p.received = false)
  | start (hstatus : t.status = t.direction.start) (hnone : ∀ p, d.Of t p → p.received = false)
  | some (hstatus : t.status = .partiallyReceived) (hin : ∃ p, d.Of t p ∧ p.received = true)
      (hout : ∃ p, d.Of t p ∧ p.received = false)
  | all (hstatus : t.status = .received) (hsome : ∃ p, d.Of t p)
      (hall : ∀ p, d.Of t p → p.received = true)

/-- The serials of the items that are on their way, one each. -/
structure OnTheRoad (road : Set Nat) (rides : Parcel → Prop) : Prop where
  road : ∀ id, id ∈ road ↔ ∃ p, rides p ∧ p.serialId = some id
  once : ∀ {p p'}, rides p → rides p' → p.serialId = p'.serialId → p = p'

/-- Statuses agree with items, and the road with the items that are on their way. -/
structure Moved (d : Deliveries) : Prop where
  shows : ∀ t ∈ d.transfers, d.Shows t
  /-- Nothing leaves empty. -/
  filled : ∀ t ∈ d.transfers, t.direction = .outbound → t.status ≠ .draft → ∃ p, d.Of t p
  road : OnTheRoad d.road d.Rides

/-- The number left for the franchise in the transfer with the UUID. -/
def Left (d : Deliveries) (u c n : PyStr) : Prop :=
  ∃ t p, d.Of t p ∧ t.direction = .outbound ∧ t.status ≠ .draft ∧ t.uuid = u ∧ t.code = c ∧
    p.number = n

/-- The transfer with the UUID has left. -/
def Gone (d : Deliveries) (u : PyStr) : Prop :=
  ∃ t ∈ d.transfers, t.direction = .outbound ∧ t.status ≠ .draft ∧ t.uuid = u

/-- The number arrived in the transfer with the UUID. -/
def Came (d : Deliveries) (u n : PyStr) : Prop :=
  ∃ t p, d.Of t p ∧ t.direction = .inbound ∧ p.received = true ∧ t.uuid = u ∧ p.number = n

/-- Master was told of exactly what left and of exactly what arrived, once. -/
structure Accounted (d : Deliveries) : Prop where
  announcedOnce : d.told.announced.Nodup
  announced : ∀ u c n, (u, c, n) ∈ d.told.announced ↔ d.Left u c n
  dispatchedOnce : d.told.dispatches.Nodup
  dispatches : ∀ u, u ∈ d.told.dispatches ↔ d.Gone u
  reportedOnce : d.told.reported.Nodup
  reported : ∀ u n, (u, n) ∈ d.told.reported ↔ d.Came u n

/-! ## Steps -/

/-- A transfer gets a status, and those of its items that are marked arrive. -/
structure Settled (t : Delivery) (status : TransferStatus) (marked : Parcel → Bool)
    (d d' : Deliveries) : Prop where
  transfers : d'.transfers = d.transfers.map (Delivery.settle t.id status)
  parcels : d'.parcels = d.parcels.map (Parcel.mark t.id marked)

/-- Some items of a transfer arrive, and their serials leave the road. -/
structure Arrived (t : Delivery) (status : TransferStatus) (marked : Parcel → Bool)
    (d d' : Deliveries) : Prop
    extends Settled t status marked d d' where
  transfer : t ∈ d.transfers
  left : t.status ≠ .draft
  leaves : status ≠ .draft
  unreceived : ∀ p, d.Of t p → marked p = true → p.received = false
  road : ∀ id, id ∈ d'.road ↔ id ∈ d.road ∧ ¬ ∃ p, d.Of t p ∧ marked p = true ∧ p.serialId = some id
  full : (∃ p, d.Of t p) → (∀ p, d.Of t p → p.received = true ∨ marked p = true) →
    status = .received
  part : (∃ p, d.Of t p ∧ (p.received = true ∨ marked p = true)) →
    (∃ p, d.Of t p ∧ p.received = false ∧ marked p = false) → status = .partiallyReceived
  kept : (∃ p, d.Of t p) → (∀ p, d.Of t p → p.received = false ∧ marked p = false) →
    status = t.status

/-- What a step can do to deliveries. -/
inductive Step (d d' : Deliveries) : Prop
  | same (htransfers : d'.transfers = d.transfers) (hparcels : d'.parcels = d.parcels)
      (hroad : d'.road = d.road)
      (htold : d'.told = d.told)
  | drafted (t : Delivery) (hfresh : ∀ q ∈ d.transfers, q.id ≠ t.id)
      (hdirection : t.direction = .outbound)
      (hdraft : t.status = .draft) (htransfers : d'.transfers = d.transfers ++ [t])
      (hparcels : d'.parcels = d.parcels)
      (hroad : d'.road = d.road) (htold : d'.told = d.told)
  | edited (t : Delivery) (ht : t ∈ d.transfers) (hdirection : t.direction = .outbound)
      (hdraft : t.status = .draft)
      (htransfers : d'.transfers = d.transfers)
      (hothers : ∀ p, p.deliveryId ≠ t.id → (p ∈ d'.parcels ↔ p ∈ d.parcels))
      (hown : ∀ p, d'.Of t p → d.Of t p ∨ p.received = false)
      (hroad : d'.road = d.road) (htold : d'.told = d.told)
  | sent (t : Delivery) (ht : t ∈ d.transfers) (hdirection : t.direction = .outbound)
      (hdraft : t.status = .draft)
      (hsome : ∃ p, d.Of t p) (hsettled : Settled t .dispatched (fun _ => false) d d')
      (numbers : List PyStr)
      (hnodup : numbers.Nodup) (hnumbers : ∀ n, n ∈ numbers ↔ ∃ p, d.Of t p ∧ p.number = n)
      (hoff : ∀ p id, d.Of t p → p.serialId = .some id → id ∉ d.road)
      (hroad : ∀ id, id ∈ d'.road ↔ id ∈ d.road ∨ ∃ p, d.Of t p ∧ p.serialId = .some id)
      (hannounced : d'.told.announced = d.told.announced ++ numbers.map fun n =>
        (t.uuid, t.code, n))
      (hdispatches : d'.told.dispatches = d.told.dispatches ++ [t.uuid])
      (hreported : d'.told.reported = d.told.reported)
  | received (t : Delivery) (hdirection : t.direction = .inbound) (status : TransferStatus)
      (marked : Parcel → Bool)
      (harrived : Arrived t status marked d d') (hsome : ∃ p, d.Of t p) (numbers : List PyStr)
      (hnodup : numbers.Nodup)
      (hnumbers : ∀ n, n ∈ numbers ↔ ∃ p, d.Of t p ∧ marked p = true ∧ p.number = n)
      (hreported : d'.told.reported = d.told.reported ++ numbers.map fun n => (t.uuid, n))
      (hannounced : d'.told.announced = d.told.announced)
      (hdispatches : d'.told.dispatches = d.told.dispatches)
  | acknowledged (t : Delivery) (hdirection : t.direction = .outbound) (status : TransferStatus)
      (marked : Parcel → Bool) (harrived : Arrived t status marked d d') (htold : d'.told = d.told)
  | came (t : Delivery) (parcels : List Parcel) (hfresh : ∀ q ∈ d.transfers, q.id ≠ t.id)
      (hdirection : t.direction = .inbound) (hstatus : t.status = .awaitingReceipt)
      (hof : ∀ p ∈ parcels, p.deliveryId = t.id ∧ p.received = false)
      (htransfers : d'.transfers = d.transfers ++ [t])
      (hparcels : d'.parcels = d.parcels ++ parcels)
      (hoff : ∀ p ∈ parcels, ∀ id, p.serialId = .some id → id ∉ d.road)
      (hroad : ∀ id, id ∈ d'.road ↔ id ∈ d.road ∨ ∃ p ∈ parcels, p.serialId = .some id)
      (htold : d'.told = d.told)

/-! ## The items after a step -/

section Items

variable {d d' : Deliveries} {t q : Delivery} {p : Parcel}

/-- Deliveries are known by their ids. -/
theorem Keys.eq_of_id (hk : d.Keys) (ht : t ∈ d.transfers) (hq : q ∈ d.transfers)
    (h : t.id = q.id) : t = q :=
  eq_of_key_eq hk.ids ht hq h

/-- Deliveries are known by their UUIDs. -/
theorem Keys.eq_of_uuid (hk : d.Keys) (ht : t ∈ d.transfers) (hq : q ∈ d.transfers)
    (h : t.uuid = q.uuid) : t = q :=
  eq_of_key_eq hk.uuids ht hq h

/-- A transfer has one item for a number. -/
theorem Keys.eq_of_number (hk : d.Keys) {p' : Parcel} (hp : d.Of t p) (hp' : d.Of t p')
    (h : p.number = p'.number) :
    p = p' :=
  eq_of_key_eq
    (show (d.parcels.map fun p : Parcel => (p.deliveryId, p.number)).Nodup from hk.numbers)
    hp.mem hp'.mem
    (by rw [hp.own, hp'.own, h])

/-- The same rows, the same parcels. -/
theorem of_same (htransfers : d'.transfers = d.transfers) (hparcels : d'.parcels = d.parcels) :
    d'.Of q p ↔ d.Of q p :=
  ⟨fun h => ⟨htransfers ▸ h.transfer, hparcels ▸ h.mem, h.own⟩,
    fun h => ⟨htransfers ▸ h.transfer, hparcels ▸ h.mem, h.own⟩⟩

/-- A transfer comes, and has the items that come with it. -/
theorem of_came (hk : d.Keys) {parcels : List Parcel} (hfresh : ∀ q ∈ d.transfers, q.id ≠ t.id)
    (hof : ∀ p ∈ parcels, p.deliveryId = t.id) (htransfers : d'.transfers = d.transfers ++ [t])
    (hparcels : d'.parcels = d.parcels ++ parcels) : d'.Of q p ↔
      d.Of q p ∨ q = t ∧ p ∈ parcels := by
  constructor
  · intro ⟨hq, hp, hown⟩
    rcases List.mem_append.mp (htransfers ▸ hq) with hq | hq
      <;> rcases List.mem_append.mp (hparcels ▸ hp) with hp | hp
    · exact Or.inl ⟨hq, hp, hown⟩
    · exact absurd (hown.symm.trans (hof p hp)) (hfresh q hq)
    · -- The items that there are belong to transfers that there are.
      obtain ⟨r, hr, hid⟩ := hk.home p hp
      obtain rfl := List.mem_singleton.mp hq
      exact absurd (hid.trans hown) (hfresh r hr)
    · exact Or.inr ⟨List.mem_singleton.mp hq, hp⟩
  · intro hcase
    rcases hcase with ⟨hq, hp, hown⟩ | ⟨rfl, hp⟩
    · exact ⟨htransfers ▸ List.mem_append_left _ hq, hparcels ▸ List.mem_append_left _ hp, hown⟩
    · exact ⟨htransfers ▸ List.mem_append_right _ (List.mem_singleton_self _),
        hparcels ▸ List.mem_append_right _ hp, hof p hp⟩

/-- A new draft has no parcels. -/
theorem of_drafted (hk : d.Keys) (hfresh : ∀ q ∈ d.transfers, q.id ≠ t.id)
    (htransfers : d'.transfers = d.transfers ++ [t]) (hparcels : d'.parcels = d.parcels) :
    d'.Of q p ↔ d.Of q p := by
  rw [of_came hk hfresh (fun _ hp => absurd hp List.not_mem_nil) htransfers
    (hparcels.trans (List.append_nil _).symm)]
  simp

/-- Who edits one draft leaves the parcels of all others. -/
theorem of_edited (htransfers : d'.transfers = d.transfers)
    (hothers : ∀ p, p.deliveryId ≠ t.id → (p ∈ d'.parcels ↔ p ∈ d.parcels)) (hq : q.id ≠ t.id) :
    d'.Of q p ↔ d.Of q p :=
  ⟨fun h => ⟨htransfers ▸ h.transfer,
    (hothers p fun he => hq (h.own.symm.trans he)).mp h.mem, h.own⟩,
    fun h => ⟨htransfers ▸ h.transfer,
      (hothers p fun he => hq (h.own.symm.trans he)).mpr h.mem, h.own⟩⟩

/-- The parcels after a dispatch or a receipt, by those before. -/
theorem Settled.of {status : TransferStatus} {marked : Parcel → Bool}
    (h : Settled t status marked d d') :
    d'.Of q p ↔ ∃ q₀ p₀, d.Of q₀ p₀ ∧ q₀.settle t.id status = q ∧ p₀.mark t.id marked = p := by
  constructor
  · intro ⟨hq, hp, hown⟩
    obtain ⟨q₀, hq₀, rfl⟩ := List.mem_map.mp (h.transfers ▸ hq)
    obtain ⟨p₀, hp₀, rfl⟩ := List.mem_map.mp (h.parcels ▸ hp)
    exact ⟨q₀, p₀, ⟨hq₀, hp₀, by simpa using hown⟩, rfl, rfl⟩
  · intro ⟨q₀, p₀, ⟨hq, hp, hown⟩, hq', hp'⟩
    subst hq' hp'
    exact ⟨h.transfers ▸ List.mem_map_of_mem hq,
      h.parcels ▸ List.mem_map_of_mem hp, by simpa using hown⟩

/-- What is on its way after a transfer got a status. -/
theorem Settled.rides {status : TransferStatus} {marked : Parcel → Bool}
    (h : Settled t status marked d d') (hstatus : status ≠ .draft) : d'.Rides p ↔
      ∃ q p₀, d.Of q p₀ ∧ (q.id = t.id ∨ q.status ≠ .draft) ∧
      p₀.mark t.id marked = p ∧ p.received = false := by
  constructor
  · intro ⟨q, hof, hleft, hunreceived⟩
    obtain ⟨q₀, p₀, hof₀, rfl, rfl⟩ := h.of.mp hof
    exact ⟨q₀, p₀, hof₀, (Delivery.settle_left hstatus).mp hleft, rfl, hunreceived⟩
  · intro ⟨q, p₀, hof, hleft, hmark, hunreceived⟩
    exact ⟨q.settle t.id status, h.of.mpr ⟨q, p₀, hof, rfl, hmark⟩,
      (Delivery.settle_left hstatus).mpr hleft,
      hunreceived⟩

/-- What is on its way after a draft has left. -/
theorem Settled.rides_sent (h : Settled t .dispatched (fun _ => false) d d') (hk : d.Keys)
    (ht : t ∈ d.transfers)
    (hnone : ∀ p, d.Of t p → p.received = false) : d'.Rides p ↔ d.Rides p ∨ d.Of t p := by
  rw [h.rides (by decide)]
  constructor
  · intro ⟨q, p₀, hof, hleft, hmark, hunreceived⟩
    rw [Parcel.mark_none] at hmark
    subst hmark
    rcases hleft with hid | hleft
    · obtain rfl := hk.eq_of_id hof.transfer ht hid
      exact Or.inr hof
    · exact Or.inl ⟨q, hof, hleft, hunreceived⟩
  · intro hcase
    rcases hcase with ⟨q, hof, hleft, hunreceived⟩ | hof
    · exact ⟨q, p, hof, Or.inr hleft, Parcel.mark_none, hunreceived⟩
    · exact ⟨t, p, hof, Or.inl rfl, Parcel.mark_none, hnone p hof⟩

/-- What is on its way after some items have arrived. -/
theorem Arrived.rides {status : TransferStatus} {marked : Parcel → Bool}
    (h : Arrived t status marked d d')
    (hk : d.Keys) : d'.Rides p ↔ d.Rides p ∧ ¬ (d.Of t p ∧ marked p = true) := by
  rw [h.toSettled.rides h.leaves]
  constructor
  · intro ⟨q, p₀, hof, hleft, hmark, hunreceived⟩
    have hnot : ¬ (p₀.deliveryId = t.id ∧ marked p₀ = true) := by
      intro hboth
      rw [← hmark, Parcel.mark_received.mpr (Or.inr hboth)] at hunreceived
      cases hunreceived
    rw [show p₀.mark t.id marked = p₀ from if_neg hnot] at hmark
    subst hmark
    refine ⟨⟨q, hof, ?_, hunreceived⟩, fun ⟨hown, hmarked⟩ => hnot ⟨hown.own, hmarked⟩⟩
    rcases hleft with hid | hleft
    · rw [hk.eq_of_id hof.transfer h.transfer hid]
      exact h.left
    · exact hleft
  · intro ⟨⟨q, hof, hleft, hunreceived⟩, hnot⟩
    refine ⟨q, p, hof, Or.inr hleft, if_neg fun ⟨hid, hmarked⟩ => hnot ⟨?_, hmarked⟩, hunreceived⟩
    exact ⟨h.transfer, hof.mem, hid⟩

/-- Another transfer has the items that it had. -/
theorem Settled.of_other {status : TransferStatus} {marked : Parcel → Bool}
    (h : Settled t status marked d d') (hq : q.id ≠ t.id) : d'.Of q p ↔ d.Of q p := by
  rw [h.of]
  constructor
  · intro ⟨q₀, p₀, hof, hsettle, hmark⟩
    have hid : q₀.id ≠ t.id := by
      rw [← hsettle, Delivery.settle_id] at hq
      exact hq
    rw [Delivery.settle_of_ne hid] at hsettle
    rw [Parcel.mark_of_ne fun he => hid (hof.own.symm.trans he)] at hmark
    rwa [← hsettle, ← hmark]
  · intro hof
    exact ⟨q, p, hof, Delivery.settle_of_ne hq,
      Parcel.mark_of_ne fun he => hq (hof.own.symm.trans he)⟩

/-- The same, for a property that some parcel has. -/
theorem Settled.exists_of {status : TransferStatus} {marked : Parcel → Bool}
    (h : Settled t status marked d d') {F : Delivery → Parcel → Prop} : (∃ q p, d'.Of q p ∧ F q p) ↔
      ∃ q p, d.Of q p ∧ F (q.settle t.id status) (p.mark t.id marked) := by
  constructor
  · intro ⟨q, p, hof, hF⟩
    obtain ⟨q₀, p₀, hof₀, rfl, rfl⟩ := h.of.mp hof
    exact ⟨q₀, p₀, hof₀, hF⟩
  · intro ⟨q, p, hof, hF⟩
    exact ⟨_, _, h.of.mpr ⟨q, p, hof, rfl, rfl⟩, hF⟩

/-- A transfer that is no draft keeps its items while drafts are edited. -/
theorem of_left (hk : d.Keys) (ht : t ∈ d.transfers) (hdraft : t.status = .draft)
    (htransfers : d'.transfers = d.transfers)
    (hothers : ∀ p, p.deliveryId ≠ t.id → (p ∈ d'.parcels ↔ p ∈ d.parcels))
    (hleft : q.status ≠ .draft) :
    d'.Of q p ↔ d.Of q p := by
  by_cases hid : q.id = t.id
  · have hnot : ∀ e : Deliveries, e.transfers = d.transfers → ¬ e.Of q p := by
      intro e he hof
      rw [hk.eq_of_id (he ▸ hof.transfer) ht hid] at hleft
      exact hleft hdraft
    exact iff_of_false (hnot d' htransfers) (hnot d rfl)
  · exact of_edited htransfers hothers hid

end Items

/-! ## The road -/

section Road

variable {d d' : Deliveries}

variable {road road' : Set Nat} {rides rides' : Parcel → Prop}

/-- The same road, the same riders. -/
theorem OnTheRoad.congr (h : OnTheRoad road rides) (hroad : road' = road)
    (hrides : ∀ p, rides' p ↔ rides p) :
    OnTheRoad road' rides' := by
  constructor
  · intro id
    rw [hroad, h.road]
    simp only [hrides]
  · intro p p' hp hp' he
    exact h.once ((hrides p).mp hp) ((hrides p').mp hp') he

/-- Items set out whose serials are not on the road. -/
theorem OnTheRoad.add (h : OnTheRoad road rides) (new : Parcel → Prop)
    (hserial : ∀ p, new p → ∃ id, p.serialId = some id)
    (hoff : ∀ p id, new p → p.serialId = some id → id ∉ road)
    (hone : ∀ p p', new p → new p' → p.serialId = p'.serialId → p = p')
    (hroad : ∀ id, id ∈ road' ↔ id ∈ road ∨ ∃ p, new p ∧ p.serialId = some id)
    (hrides : ∀ p, rides' p ↔ rides p ∨ new p) : OnTheRoad road' rides' := by
  -- An item that was on its way is for another serial than one that sets out.
  have hother : ∀ p p', rides p → new p' → p.serialId ≠ p'.serialId := by
    intro p p' hp hp' he
    obtain ⟨id, hid⟩ := hserial p' hp'
    exact hoff p' id hp' hid ((h.road id).mpr ⟨p, hp, he.trans hid⟩)
  constructor
  · intro id
    simp only [hroad, h.road, hrides, or_and_right, exists_or]
  · intro p p' hp hp' he
    rcases (hrides p).mp hp with hp | hp <;> rcases (hrides p').mp hp' with hp' | hp'
    · exact h.once hp hp' he
    · exact absurd he (hother p p' hp hp')
    · exact absurd he.symm (hother p' p hp' hp)
    · exact hone p p' hp hp' he

/-- Items arrive, and their serials leave the road. -/
theorem OnTheRoad.remove (h : OnTheRoad road rides) (gone : Parcel → Prop)
    (hgone : ∀ p, gone p → rides p)
    (hroad : ∀ id, id ∈ road' ↔ id ∈ road ∧ ¬ ∃ p, gone p ∧ p.serialId = some id)
    (hrides : ∀ p, rides' p ↔ rides p ∧ ¬ gone p) : OnTheRoad road' rides' := by
  constructor
  · intro id
    rw [hroad, h.road]
    constructor
    · intro ⟨⟨p, hp, hid⟩, hnone⟩
      exact ⟨p, (hrides p).mpr ⟨hp, fun hgone => hnone ⟨p, hgone, hid⟩⟩, hid⟩
    · intro ⟨p, hp, hid⟩
      obtain ⟨hp, hstays⟩ := (hrides p).mp hp
      refine ⟨⟨p, hp, hid⟩, fun ⟨p', hp', hid'⟩ => hstays ?_⟩
      rwa [h.once hp (hgone p' hp') (hid.trans hid'.symm)]
  · intro p p' hp hp' he
    exact h.once ((hrides p).mp hp).1 ((hrides p').mp hp').1 he

/-- A step keeps the serials of the items that are on their way on the road, one each. -/
theorem Step.onTheRoad (hk : d.Keys) (hk' : d'.Keys)
    (hdrafts : ∀ t p, d.Of t p → t.status = .draft → p.received = false)
    (h : OnTheRoad d.road d.Rides) (hstep : Step d d') : OnTheRoad d'.road d'.Rides := by
  -- What is on the road changes by what was sent, received or came.
  cases hstep with
  | same htransfers hparcels hroad =>
    exact h.congr hroad fun p => exists_congr fun q => and_congr_left fun _ =>
      of_same htransfers hparcels
  | drafted t hfresh _ _ htransfers hparcels hroad =>
    exact h.congr hroad fun p => exists_congr fun q => and_congr_left fun _ =>
      of_drafted hk hfresh htransfers hparcels
  | edited t ht _ hdraft htransfers hothers _ hroad =>
    exact h.congr hroad fun p => exists_congr fun q => and_congr_left fun ⟨hleft, _⟩ =>
      of_left hk ht hdraft htransfers hothers hleft
  -- The parcels of the transfer leave: none was on the road, and no number is on it twice.
  | sent t ht _ hdraft _ hsettled _ _ _ hoff hroad =>
    refine h.add (d.Of t) (fun p hp => hk.serial p hp.mem) hoff ?_ hroad
      fun p => hsettled.rides_sent hk ht fun p hp => hdrafts t p hp hdraft
    intro p p' hp hp' he
    exact hk.eq_of_number hp hp' (hk.serialNumbers p hp.mem p' hp'.mem he)
  -- The marked parcels leave the road; each was on it, for it was unreceived.
  | received t _ status marked harrived =>
    refine h.remove (fun p => d.Of t p ∧ marked p = true) ?_ (fun id => ?_) fun p =>
      harrived.rides hk
    · exact fun p ⟨hp, hmarked⟩ => ⟨t, hp, harrived.left, harrived.unreceived p hp hmarked⟩
    · simp only [harrived.road, and_assoc]
  | acknowledged t _ status marked harrived =>
    refine h.remove (fun p => d.Of t p ∧ marked p = true) ?_ (fun id => ?_) fun p =>
      harrived.rides hk
    · exact fun p ⟨hp, hmarked⟩ => ⟨t, hp, harrived.left, harrived.unreceived p hp hmarked⟩
    · simp only [harrived.road, and_assoc]
  -- A transfer that came brings parcels of its own.
  | came t parcels hfresh _ hstatus hof htransfers hparcels hoff hroad =>
    have hitems : ∀ {q p}, d'.Of q p ↔ d.Of q p ∨ q = t ∧ p ∈ parcels :=
      of_came hk hfresh (fun p hp => (hof p hp).1) htransfers hparcels
    have hnew : ∀ p ∈ parcels, d'.Of t p := fun p hp => hitems.mpr (Or.inr ⟨rfl, hp⟩)
    refine h.add (fun p => p ∈ parcels) (fun p hp => hk'.serial p (hnew p hp).mem)
      (fun p id hp => hoff p hp id) ?_ hroad fun p => ?_
    · intro p p' hp hp' he
      exact hk'.eq_of_number (hnew p hp) (hnew p' hp')
        (hk'.serialNumbers p (hnew p hp).mem p' (hnew p' hp').mem he)
    · constructor
      · intro ⟨q, hq, hleft, hunreceived⟩
        exact (hitems.mp hq).imp (fun hq => ⟨q, hq, hleft, hunreceived⟩) fun hq => hq.2
      · intro hcase
        rcases hcase with ⟨q, hq, hrest⟩ | hp
        · exact ⟨q, hitems.mpr (Or.inl hq), hrest⟩
        · exact ⟨t, hnew p hp, by rw [hstatus]; decide, (hof p hp).2⟩

end Road

/-! ## Statuses -/

section Statuses

variable {d d' : Deliveries} {t q : Delivery}

/-- A delivery shows what its parcels are, and these are the same. -/
theorem Shows.of_items (h : d.Shows q) (hof : ∀ p, d'.Of q p ↔ d.Of q p) : d'.Shows q := by
  cases h with
  | draft hdirection hstatus hnone =>
    exact .draft hdirection hstatus fun p hp => hnone p ((hof p).mp hp)
  | start hstatus hnone => exact .start hstatus fun p hp => hnone p ((hof p).mp hp)
  | some hstatus hin hout =>
    refine .some hstatus (hin.imp fun p hp => ?_) (hout.imp fun p hp => ?_)
    · exact hp.imp_left (hof p).mpr
    · exact hp.imp_left (hof p).mpr
  | all hstatus hsome hall =>
    exact .all hstatus (hsome.imp fun p hp => (hof p).mpr hp) fun p hp => hall p ((hof p).mp hp)

/-- Nothing of a draft has arrived. -/
theorem Shows.unreceived (h : d.Shows t) (hdraft : t.status = .draft) {p : Parcel} (hp : d.Of t p) :
    p.received = false := by
  cases h with
  | draft _ _ hnone => exact hnone p hp
  | start hstatus hnone => exact hnone p hp
  | some hstatus => exact absurd (hdraft.symm.trans hstatus) (by decide)
  | all hstatus => exact absurd (hdraft.symm.trans hstatus) (by decide)

/-- A transfer that gets a status shows it; the others show what they did. -/
theorem Settled.shows {status : TransferStatus} {marked : Parcel → Bool}
    (hsettled : Settled t status marked d d') (hk : d.Keys) (ht : t ∈ d.transfers)
    (h : ∀ q ∈ d.transfers, d.Shows q)
    (hown : d'.Shows (t.settle t.id status)) : ∀ q ∈ d'.transfers, d'.Shows q := by
  intro q hq
  rw [hsettled.transfers] at hq
  obtain ⟨q₀, hq₀, rfl⟩ := List.mem_map.mp hq
  by_cases hid : q₀.id = t.id
  · rw [hk.eq_of_id hq₀ ht hid]
    exact hown
  · rw [Delivery.settle_of_ne hid]
    exact (h q₀ hq₀).of_items fun _ => hsettled.of_other hid

/-- What has arrived of a transfer after some of it did. -/
theorem Settled.received_iff {status : TransferStatus} {marked : Parcel → Bool}
    (hsettled : Settled t status marked d d') (hk : d.Keys) (ht : t ∈ d.transfers)
    {P : Bool → Prop} :
    (∃ p, d'.Of (t.settle t.id status) p ∧ P p.received) ↔
      ∃ p, d.Of t p ∧ P (p.mark t.id marked).received := by
  constructor
  · intro ⟨p, hp, hP⟩
    obtain ⟨q₀, p₀, hof, hsettle, rfl⟩ := hsettled.of.mp hp
    have hid : q₀.id = t.id := by
      have := congrArg Delivery.id hsettle
      simpa using this
    rw [hk.eq_of_id hof.transfer ht hid] at hof
    exact ⟨p₀, hof, hP⟩
  · intro ⟨p, hp, hP⟩
    exact ⟨_, hsettled.of.mpr ⟨t, p, hp, rfl, rfl⟩, hP⟩

/-- The status that a receipt works out is what the parcels say. -/
theorem Arrived.shows {status : TransferStatus} {marked : Parcel → Bool}
    (harrived : Arrived t status marked d d') (hk : d.Keys) (h : d.Shows t)
    (hsome : ∃ p, d.Of t p) : d'.Shows (t.settle t.id status) := by
  have hitems : ∀ {P : Bool → Prop}, (∃ p, d'.Of (t.settle t.id status) p ∧ P p.received) ↔
      ∃ p, d.Of t p ∧ P (p.mark t.id marked).received :=
    harrived.toSettled.received_iff hk harrived.transfer
  have hstatus : (t.settle t.id status).status = status := by
    rw [Delivery.settle_status, if_pos rfl]
  have hmark : ∀ {p}, d.Of t p →
      ((p.mark t.id marked).received = true ↔ p.received = true ∨ marked p = true) := by
    intro p hp
    rw [Parcel.mark_received, and_iff_right hp.own]
  by_cases hall : ∀ p, d.Of t p → p.received = true ∨ marked p = true
  · refine .all (hstatus.trans (harrived.full hsome hall)) ?_ fun p hp => ?_
    · obtain ⟨p, hp⟩ := hsome
      obtain ⟨p', hp', -⟩ := (hitems (P := fun _ => True)).mpr ⟨p, hp, trivial⟩
      exact ⟨p', hp'⟩
    · by_contra hno
      obtain ⟨p₀, hp₀, hno⟩ := (hitems (P := fun b => ¬ b = true)).mp ⟨p, hp, hno⟩
      exact hno ((hmark hp₀).mpr (hall p₀ hp₀))
  · have hout : ∃ p, d.Of t p ∧ p.received = false ∧ marked p = false := by
      push Not at hall
      exact hall.imp fun p ⟨hp, hno⟩ => ⟨hp, by simpa using hno⟩
    by_cases hany : ∃ p, d.Of t p ∧ (p.received = true ∨ marked p = true)
    · refine .some (hstatus.trans (harrived.part hany hout))
        ((hitems (P := fun b => b = true)).mpr ?_)
        ((hitems (P := fun b => b = false)).mpr ?_)
      · exact hany.imp fun p ⟨hp, hcase⟩ => ⟨hp, (hmark hp).mpr hcase⟩
      · refine hout.imp fun p ⟨hp, hunreceived, hunmarked⟩ => ⟨hp, ?_⟩
        rw [← Bool.not_eq_true, hmark hp, hunreceived, hunmarked]
        simp
    · -- Nothing has arrived before, and nothing does now.
      have hnone : ∀ p, d.Of t p → p.received = false ∧ marked p = false := by
        intro p hp
        constructor <;> rw [← Bool.not_eq_true] <;> intro hyes
        · exact hany ⟨p, hp, Or.inl hyes⟩
        · exact hany ⟨p, hp, Or.inr hyes⟩
      have hkept := harrived.kept hsome hnone
      have hstart : t.status = t.direction.start := by
        cases h with
        | draft _ hdraft => exact absurd hdraft harrived.left
        | start hstart => exact hstart
        | some _ hin =>
          obtain ⟨p, hp, hreceived⟩ := hin
          exact absurd ⟨p, hp, Or.inl hreceived⟩ hany
        | all _ hsome hreceived =>
          obtain ⟨p, hp⟩ := hsome
          exact absurd ⟨p, hp, Or.inl (hreceived p hp)⟩ hany
      refine .start (hstatus.trans (hkept.trans (by rw [hstart, Delivery.settle_direction])))
        fun p hp => ?_
      rw [← Bool.not_eq_true]
      intro hyes
      obtain ⟨p₀, hp₀, hyes⟩ := (hitems (P := fun b => b = true)).mp ⟨p, hp, hyes⟩
      exact hany ⟨p₀, hp₀, (hmark hp₀).mp hyes⟩

/-- A delivery that leaves has parcels. -/
theorem Settled.filled {status : TransferStatus} {marked : Parcel → Bool}
    (hsettled : Settled t status marked d d') (hk : d.Keys) (ht : t ∈ d.transfers)
    (hsome : t.direction = .outbound → ∃ p, d.Of t p)
    (h : ∀ q ∈ d.transfers, q.direction = .outbound → q.status ≠ .draft → ∃ p, d.Of q p) :
    ∀ q ∈ d'.transfers, q.direction = .outbound → q.status ≠ .draft → ∃ p, d'.Of q p := by
  intro q hq hdirection hleft
  rw [hsettled.transfers] at hq
  obtain ⟨q₀, hq₀, rfl⟩ := List.mem_map.mp hq
  rw [Delivery.settle_direction] at hdirection
  have hitems : ∃ p, d.Of q₀ p := by
    by_cases hid : q₀.id = t.id
    · obtain rfl := hk.eq_of_id hq₀ ht hid
      exact hsome hdirection
    · rw [Delivery.settle_of_ne hid] at hleft
      exact h q₀ hq₀ hdirection hleft
  obtain ⟨p, hp⟩ := hitems
  exact ⟨_, hsettled.of.mpr ⟨q₀, p, hp, rfl, rfl⟩⟩

/-- Every step keeps what statuses and parcels say about each other. -/
theorem Step.moved (hk : d.Keys) (hk' : d'.Keys) (h : d.Moved) (hstep : Step d d') : d'.Moved := by
  -- The road is as the step leaves it; the statuses are seen to by the step.
  have hroad := hstep.onTheRoad hk hk'
    (fun t p hp hdraft => (h.shows t hp.transfer).unreceived hdraft hp) h.road
  cases hstep with
  | same htransfers hparcels =>
    refine ⟨fun q hq => (h.shows q (htransfers ▸ hq)).of_items fun _ =>
      of_same htransfers hparcels, ?_, hroad⟩
    intro q hq hdirection hleft
    exact (h.filled q (htransfers ▸ hq) hdirection hleft).imp fun _ hp =>
      (of_same htransfers hparcels).mpr hp
  | drafted t hfresh hdirection hdraft htransfers hparcels =>
    have hitems : ∀ {q p}, d'.Of q p ↔ d.Of q p := of_drafted hk hfresh htransfers hparcels
    refine ⟨fun q hq => ?_, fun q hq hout hleft => ?_, hroad⟩
    · rcases List.mem_append.mp (htransfers ▸ hq) with hq | hq
      · exact (h.shows q hq).of_items fun _ => hitems
      · rw [List.mem_singleton.mp hq]
        exact .draft hdirection hdraft fun p hp => absurd rfl (hfresh t (hitems.mp hp).transfer)
    · rcases List.mem_append.mp (htransfers ▸ hq) with hq | hq
      · exact (h.filled q hq hout hleft).imp fun _ hp => hitems.mpr hp
      · rw [List.mem_singleton.mp hq] at hleft
        exact absurd hdraft hleft
  -- The edited one keeps its status as a draft; the others their items.
  | edited t ht hdirection hdraft htransfers hothers hown =>
    refine ⟨fun q hq => ?_, fun q hq hout hleft => ?_, hroad⟩
    · rw [htransfers] at hq
      by_cases hid : q.id = t.id
      · obtain rfl := hk.eq_of_id hq ht hid
        refine .draft hdirection hdraft fun p hp => ?_
        rcases hown p hp with hp | hunreceived
        · exact (h.shows q hq).unreceived hdraft hp
        · exact hunreceived
      · exact (h.shows q hq).of_items fun _ => of_edited htransfers hothers hid
    · exact (h.filled q (htransfers ▸ hq) hout hleft).imp fun _ hp =>
        (of_left hk ht hdraft htransfers hothers hleft).mpr hp
  -- A dispatched transfer starts with nothing received and at least one parcel.
  | sent t ht hdirection hdraft hsome hsettled =>
    refine ⟨hsettled.shows hk ht h.shows (.start ?_ fun p hp => ?_),
      hsettled.filled hk ht (fun _ => hsome) h.filled, hroad⟩
    · rw [Delivery.settle_status, if_pos rfl, Delivery.settle_direction, hdirection]
      rfl
    · by_contra hno
      obtain ⟨p₀, hp₀, hyes⟩ :=
        (hsettled.received_iff hk ht (P := fun b => ¬ b = false)).mp ⟨p, hp, hno⟩
      rw [Parcel.mark_none] at hyes
      exact hyes ((h.shows t ht).unreceived hdraft hp₀)
  | received t hdirection status marked harrived hsome =>
    exact ⟨harrived.toSettled.shows hk harrived.transfer h.shows
      (harrived.shows hk (h.shows t harrived.transfer) hsome),
      harrived.toSettled.filled hk harrived.transfer (fun _ => hsome) h.filled, hroad⟩
  -- An acknowledgement finds parcels, for a transfer that left is filled.
  | acknowledged t hdirection status marked harrived =>
    have hsome := h.filled t harrived.transfer hdirection harrived.left
    exact ⟨harrived.toSettled.shows hk harrived.transfer h.shows
      (harrived.shows hk (h.shows t harrived.transfer) hsome),
      harrived.toSettled.filled hk harrived.transfer (fun _ => hsome) h.filled, hroad⟩
  -- The transfer that came is filled as its parcels are; the others are as before.
  | came t parcels hfresh hdirection hstatus hof htransfers hparcels =>
    have hitems : ∀ {q p}, d'.Of q p ↔ d.Of q p ∨ q = t ∧ p ∈ parcels :=
      of_came hk hfresh (fun p hp => (hof p hp).1) htransfers hparcels
    refine ⟨fun q hq => ?_, fun q hq hout hleft => ?_, hroad⟩
    · rcases List.mem_append.mp (htransfers ▸ hq) with hq | hq
      · refine (h.shows q hq).of_items fun p => hitems.trans (or_iff_left fun hnew => ?_)
        exact hfresh q hq (congrArg Delivery.id hnew.1)
      · obtain rfl := List.mem_singleton.mp hq
        refine .start (by rw [hstatus, hdirection]; rfl) fun p hp => ?_
        rcases hitems.mp hp with hp | ⟨-, hp⟩
        · exact absurd rfl (hfresh q hp.transfer)
        · exact (hof p hp).2
    · rcases List.mem_append.mp (htransfers ▸ hq) with hq | hq
      · exact (h.filled q hq hout hleft).imp fun _ hp => hitems.mpr (Or.inl hp)
      · rw [List.mem_singleton.mp hq] at hout
        exact absurd (hdirection.symm.trans hout) (by decide)

end Statuses

/-! ## What Master was told -/

section Told

variable {d d' : Deliveries} {t : Delivery} {status : TransferStatus} {marked : Parcel → Bool}

/-- Who has left, after a dispatch. -/
theorem Settled.left_iff (h : Settled t status marked d d') (hstatus : status ≠ .draft)
    {u c n : PyStr} :
    d'.Left u c n ↔
      ∃ q p, d.Of q p ∧ q.direction = .outbound ∧ (q.id = t.id ∨ q.status ≠ .draft) ∧ q.uuid = u ∧
      q.code = c ∧ p.number = n := by
  unfold Left
  rw [h.exists_of]
  simp only [Delivery.settle_direction, Delivery.settle_left hstatus, Delivery.settle_uuid,
    Delivery.settle_code,
    Parcel.mark_number]

/-- Which deliveries have left, after a dispatch. -/
theorem Settled.gone_iff (h : Settled t status marked d d') (hstatus : status ≠ .draft)
    {u : PyStr} :
    d'.Gone u ↔ ∃ q ∈ d.transfers, q.direction = .outbound ∧ (q.id = t.id ∨ q.status ≠ .draft) ∧
      q.uuid = u := by
  unfold Gone
  rw [h.transfers]
  constructor
  · intro ⟨q, hq, hrest⟩
    obtain ⟨q₀, hq₀, rfl⟩ := List.mem_map.mp hq
    rw [Delivery.settle_direction, Delivery.settle_left hstatus, Delivery.settle_uuid] at hrest
    exact ⟨q₀, hq₀, hrest⟩
  · intro ⟨q, hq, hrest⟩
    refine ⟨_, List.mem_map_of_mem hq, ?_⟩
    rw [Delivery.settle_direction, Delivery.settle_left hstatus, Delivery.settle_uuid]
    exact hrest

/-- Who has come, after a receipt. -/
theorem Settled.came_iff (h : Settled t status marked d d') {u n : PyStr} :
    d'.Came u n ↔ ∃ q p, d.Of q p ∧ q.direction = .inbound ∧
      (p.received = true ∨ q.id = t.id ∧ marked p = true) ∧
      q.uuid = u ∧ p.number = n := by
  unfold Came
  rw [h.exists_of]
  simp only [Delivery.settle_direction, Delivery.settle_uuid, Parcel.mark_received,
    Parcel.mark_number]
  refine exists_congr fun q => exists_congr fun p => and_congr_right fun hof => ?_
  rw [hof.own]

/-- Of what left, an arrival changes nothing. -/
theorem Arrived.left_iff (h : Arrived t status marked d d') (hk : d.Keys) {u c n : PyStr} :
    d'.Left u c n ↔ d.Left u c n := by
  rw [h.toSettled.left_iff h.leaves]
  refine exists_congr fun q => exists_congr fun p => and_congr_right fun hof =>
    and_congr_right fun _ => ?_
  refine and_congr_left fun _ => or_iff_right_of_imp fun hid => ?_
  rw [hk.eq_of_id hof.transfer h.transfer hid]
  exact h.left

/-- A report changes nothing about who has left. -/
theorem Arrived.gone_iff (h : Arrived t status marked d d') (hk : d.Keys) {u : PyStr} : d'.Gone u ↔
    d.Gone u := by
  rw [h.toSettled.gone_iff h.leaves]
  refine exists_congr fun q => and_congr_right fun hq => and_congr_right fun _ =>
    and_congr_left fun _ => ?_
  refine or_iff_right_of_imp fun hid => ?_
  rw [hk.eq_of_id hq h.transfer hid]
  exact h.left

/-- The parts of the account that a step does not touch. -/
theorem Accounted.of_same (h : d.Accounted) (htold : d'.told = d.told)
    (hleft : ∀ u c n, d'.Left u c n ↔ d.Left u c n) (hgone : ∀ u, d'.Gone u ↔ d.Gone u)
    (hcame : ∀ u n, d'.Came u n ↔ d.Came u n) :
    d'.Accounted := by
  constructor
  · exact htold ▸ h.announcedOnce
  · intro u c n
    rw [htold]
    exact (h.announced u c n).trans (hleft u c n).symm
  · exact htold ▸ h.dispatchedOnce
  · intro u
    rw [htold]
    exact (h.dispatches u).trans (hgone u).symm
  · exact htold ▸ h.reportedOnce
  · intro u n
    rw [htold]
    exact (h.reported u n).trans (hcame u n).symm

/-- What is told anew was not told before. -/
theorem nodup_told {α β : Type} {told : List α} {new : List β} {f : β → α} (htold : told.Nodup)
    (hnew : new.Nodup) (hf : Function.Injective f)
    (hfresh : ∀ b ∈ new, f b ∉ told) : (told ++ new.map f).Nodup := by
  refine List.nodup_append'.mpr ⟨htold, hnew.map hf, ?_⟩
  intro a ha hmem
  obtain ⟨b, hb, rfl⟩ := List.mem_map.mp hmem
  exact hfresh b hb ha

/-- Every step keeps the announcements in line with what left and came. -/
theorem Step.accounted (hk : d.Keys) (h : d.Accounted) (hstep : Step d d') : d'.Accounted := by
  cases hstep with
  | same htransfers hparcels _ htold =>
    refine h.of_same htold (fun u c n => ?_) (fun u => ?_) fun u n => ?_
    · exact exists_congr fun q => exists_congr fun p => and_congr_left fun _ =>
        of_same htransfers hparcels
    · unfold Gone
      rw [htransfers]
    · exact exists_congr fun q => exists_congr fun p => and_congr_left fun _ =>
        of_same htransfers hparcels
  | drafted t hfresh hdirection hdraft htransfers hparcels _ htold =>
    have hitems : ∀ {q p}, d'.Of q p ↔ d.Of q p := of_drafted hk hfresh htransfers hparcels
    refine h.of_same htold (fun u c n => ?_) (fun u => ?_) fun u n => ?_
    · exact exists_congr fun q => exists_congr fun p => and_congr_left fun _ => hitems
    · unfold Gone
      rw [htransfers]
      simp [or_and_right, exists_or, hdraft]
    · exact exists_congr fun q => exists_congr fun p => and_congr_left fun _ => hitems
  | edited t ht hdirection hdraft htransfers hothers _ _ htold =>
    refine h.of_same htold (fun u c n => ?_) (fun u => ?_) fun u n => ?_
    · exact exists_congr fun q => exists_congr fun p => and_congr_left fun ⟨_, hleft, _⟩ =>
        of_left hk ht hdraft htransfers hothers hleft
    · unfold Gone
      rw [htransfers]
    · refine exists_congr fun q => exists_congr fun p =>
        ⟨fun ⟨hof, hin, hrest⟩ => ?_, fun ⟨hof, hin, hrest⟩ => ?_⟩
      · have hid : q.id ≠ t.id := fun hid => by
          rw [hk.eq_of_id (htransfers ▸ hof.transfer) ht hid] at hin
          exact absurd (hdirection.symm.trans hin) (by decide)
        exact ⟨(of_edited htransfers hothers hid).mp hof, hin, hrest⟩
      · have hid : q.id ≠ t.id := fun hid => by
          rw [hk.eq_of_id hof.transfer ht hid] at hin
          exact absurd (hdirection.symm.trans hin) (by decide)
        exact ⟨(of_edited htransfers hothers hid).mpr hof, hin, hrest⟩
  | sent t ht hdirection hdraft hsome hsettled numbers hnodup hnumbers _ _ hannounced hdispatches
    hreported =>
    have hstatus : TransferStatus.dispatched ≠ .draft := by decide
    -- A draft is neither announced nor dispatched yet.
    have hnew : ¬ d.Gone t.uuid := by
      intro ⟨q, hq, _, hleft, huuid⟩
      rw [hk.eq_of_uuid hq ht huuid] at hleft
      exact hleft hdraft
    constructor
    · rw [hannounced]
      refine nodup_told h.announcedOnce hnodup (fun n m he => (Prod.mk.inj (Prod.mk.inj he).2).2)
        fun n _ hn => hnew ?_
      obtain ⟨q, p, hof, hrest⟩ := (h.announced _ _ _).mp hn
      exact ⟨q, hof.transfer, hrest.1, hrest.2.1, hrest.2.2.1⟩
    · intro u c n
      refine Iff.trans ?_ (hsettled.left_iff hstatus).symm
      rw [hannounced, List.mem_append, h.announced, List.mem_map]
      constructor
      · intro hcase
        rcases hcase with ⟨q, p, hof, hout, hleft, hrest⟩ | ⟨m, hm, he⟩
        · exact ⟨q, p, hof, hout, Or.inr hleft, hrest⟩
        · obtain ⟨p, hp, rfl⟩ := (hnumbers m).mp hm
          simp only [Prod.mk.injEq] at he
          exact ⟨t, p, hp, hdirection, Or.inl rfl, he⟩
      · intro ⟨q, p, hof, hout, hleft, huuid, hcode, hn⟩
        rcases hleft with hid | hleft
        · obtain rfl := hk.eq_of_id hof.transfer ht hid
          exact Or.inr ⟨n, (hnumbers n).mpr ⟨p, hof, hn⟩, by rw [huuid, hcode]⟩
        · exact Or.inl ⟨q, p, hof, hout, hleft, huuid, hcode, hn⟩
    · rw [hdispatches]
      refine List.nodup_append'.mpr ⟨h.dispatchedOnce, List.nodup_singleton _, fun u hu hmem => ?_⟩
      rw [List.mem_singleton.mp hmem] at hu
      exact hnew ((h.dispatches _).mp hu)
    · intro u
      refine Iff.trans ?_ (hsettled.gone_iff hstatus).symm
      rw [hdispatches, List.mem_append, h.dispatches, List.mem_singleton]
      constructor
      · intro hcase
        rcases hcase with ⟨q, hq, hout, hleft, huuid⟩ | rfl
        · exact ⟨q, hq, hout, Or.inr hleft, huuid⟩
        · exact ⟨t, ht, hdirection, Or.inl rfl, rfl⟩
      · intro ⟨q, hq, hout, hleft, huuid⟩
        rcases hleft with hid | hleft
        · rw [← huuid, hk.eq_of_id hq ht hid]
          exact Or.inr rfl
        · exact Or.inl ⟨q, hq, hout, hleft, huuid⟩
    · exact hreported ▸ h.reportedOnce
    · intro u n
      rw [hreported]
      refine (h.reported u n).trans (Iff.trans ?_ hsettled.came_iff.symm)
      simp only [Bool.false_eq_true, and_false, or_false]
      rfl
  | received t hdirection status marked harrived _ numbers hnodup hnumbers hreported hannounced
    hdispatches =>
    constructor
    · exact hannounced ▸ h.announcedOnce
    · intro u c n
      rw [hannounced]
      exact (h.announced u c n).trans (harrived.left_iff hk).symm
    · exact hdispatches ▸ h.dispatchedOnce
    · intro u
      rw [hdispatches]
      exact (h.dispatches u).trans (harrived.gone_iff hk).symm
    · rw [hreported]
      refine nodup_told h.reportedOnce hnodup (fun n m he => (Prod.mk.inj he).2) fun n hn hmem => ?_
      -- The transfer has one item for the number, and it has not arrived yet.
      obtain ⟨p, hp, hmarked, rfl⟩ := (hnumbers n).mp hn
      obtain ⟨q, p', hp', -, hreceived, huuid, hnumber⟩ := (h.reported _ _).mp hmem
      obtain rfl := hk.eq_of_uuid hp'.transfer hp.transfer huuid
      rw [hk.eq_of_number hp' hp hnumber, harrived.unreceived p hp hmarked] at hreceived
      cases hreceived
    · intro u n
      refine Iff.trans ?_ harrived.toSettled.came_iff.symm
      rw [hreported, List.mem_append, h.reported, List.mem_map]
      constructor
      · intro hcase
        rcases hcase with ⟨q, p, hof, hin, hreceived, hrest⟩ | ⟨m, hm, he⟩
        · exact ⟨q, p, hof, hin, Or.inl hreceived, hrest⟩
        · obtain ⟨p, hp, hmarked, rfl⟩ := (hnumbers m).mp hm
          exact ⟨t, p, hp, hdirection, Or.inr ⟨rfl, hmarked⟩, (Prod.mk.inj he).1,
            (Prod.mk.inj he).2⟩
      · intro ⟨q, p, hof, hin, hcase, huuid, hn⟩
        rcases hcase with hreceived | ⟨hid, hmarked⟩
        · exact Or.inl ⟨q, p, hof, hin, hreceived, huuid, hn⟩
        · obtain rfl := hk.eq_of_id hof.transfer harrived.transfer hid
          exact Or.inr ⟨n, (hnumbers n).mpr ⟨p, hof, hmarked, hn⟩, by rw [huuid]⟩
  | acknowledged t hdirection status marked harrived htold =>
    refine h.of_same htold (fun u c n => harrived.left_iff hk) (fun u => harrived.gone_iff hk)
      fun u n => ?_
    rw [harrived.toSettled.came_iff]
    refine exists_congr fun q => exists_congr fun p => and_congr_right fun hof =>
      and_congr_right fun hin => ?_
    refine and_congr_left fun _ => or_iff_left_of_imp fun ⟨hid, _⟩ => ?_
    rw [hk.eq_of_id hof.transfer harrived.transfer hid] at hin
    exact absurd (hdirection.symm.trans hin) (by decide)
  | came t parcels hfresh hdirection hstatus hof htransfers hparcels _ _ htold =>
    have hitems : ∀ {q p}, d'.Of q p ↔ d.Of q p ∨ q = t ∧ p ∈ parcels :=
      of_came hk hfresh (fun p hp => (hof p hp).1) htransfers hparcels
    refine h.of_same htold (fun u c n => ?_) (fun u => ?_) fun u n => ?_
    · refine exists_congr fun q => exists_congr fun p => and_congr_left fun ⟨hout, _⟩ => ?_
      refine hitems.trans (or_iff_left fun ⟨he, _⟩ => ?_)
      rw [he] at hout
      exact absurd (hdirection.symm.trans hout) (by decide)
    · unfold Gone
      rw [htransfers]
      simp [or_and_right, exists_or, hdirection]
    · refine exists_congr fun q => exists_congr fun p => and_congr_left fun ⟨_, hreceived, _⟩ => ?_
      refine hitems.trans (or_iff_left fun ⟨_, hp⟩ => ?_)
      rw [(hof p hp).2] at hreceived
      cases hreceived

end Told

end Deliveries

end SetuoraLite
