import Mathlib.Data.Fintype.Basic
import SetuoraLite.Stock.Orders
import SetuoraLite.Stock.Party
import SetuoraLite.Stock.Reservations

/-!
# The network

Franchise nodes that send each other stock. They share no data: what passes between them
are commands of Master, and Master relays what a node announced. Nothing is assumed of
when it does so, how often, in which order or to which node, nor of its receipts.

`Faithful` is what is asked of Master and of new UUIDs, step by step. Every transaction of a
node is a `Custody.Step` (`Shipment.step`), so that what a network keeps is what the custody
library says: `one_place` over every run of `networkMachine`.
-/

namespace SetuoraLite

open Lib Custody

variable {rt : Runtime} {st : Settings} {now : Instant} {uuid : PyStr} {db db' : Db}

/-- A transfer that is accepted is addressed to this node, when it names a destination. -/
theorem parseIncoming_addressed {transferUuid : PyStr} {data : List (PyStr × Json)}
    {manifest : List Json} {t : IncomingTransfer}
    (h : parseIncoming rt st transferUuid data manifest = .ok t)
    (hsync : st.masterSyncEnabled = true) (hnamed : destinationOf rt data ≠ []) :
    destinationOf rt data = normalizeFranchiseCode st.franchiseCode := by
  obtain ⟨localCode, hlocal, h⟩ := except_bind_ok.mp h
  have hcode : localCode = normalizeFranchiseCode st.franchiseCode ∧ localCode ≠ [] := by
    obtain ⟨hplaceholder, hlocal⟩ := except_unless_ok hlocal
    obtain ⟨-, hlocal⟩ := except_unless_ok hlocal
    obtain rfl := Except.ok.inj hlocal
    exact ⟨rfl, fun hempty => hplaceholder ⟨hsync, Or.inl hempty⟩⟩
  obtain ⟨-, h⟩ := except_unless_ok h
  obtain ⟨haddress, -⟩ := except_unless_ok h
  rw [← hcode.1]
  by_contra hne
  exact haddress ⟨hnamed, hcode.2, hne⟩

/-- Only a request for a draft opens one, first thing, under its own UUID. -/
theorem request_opens (hids : (db.serials.map (·.id)).Nodup) (o : StockOrder) :
    (o.request rt st).Commits Eq (fun c t => ∀ row, c = .createTransfer row →
      t = db ∧ ∃ user peerCode notes,
      o = .openTransfer user peerCode notes row.transferUuid) db := by
  have hothers : (∀ row, ¬ o.Asks db (.createTransfer row)) → (o.request rt st).Commits Eq
      (fun c t => ∀ row, c = .createTransfer row →
        t = db ∧ ∃ user peerCode notes,
        o = .openTransfer user peerCode notes row.transferUuid) db := by
    intro hnever
    refine (request_asks hids o).imp (fun c t hc row he => ?_) fun _ _ h => h
    subst he
    exact absurd hc.1 (hnever row)
  cases o with
  | openTransfer user peerCode notes uuid =>
    refine Request.Spec.bind_raiseIf fun _ => ?_
    refine Request.Spec.bind_raiseIf fun _ => ?_
    refine Request.Spec.bind_lift fun _ _ => ?_
    refine Request.Spec.bind_raiseIf fun _ => Request.Spec.commits_alone fun row he => ⟨rfl, ?_⟩
    injection he with he
    rw [← he]
    exact ⟨user, peerCode, notes, rfl⟩
  | _ => exact hothers fun _ h => h

/-! ## Master and UUIDs -/

section Network

variable {ν : Type} (settings : ν → Settings) (w : ν → Db)

/-- The consignment of a transfer command was announced, number by number, to the
destination that the command names. -/
def Relayed (rt : Runtime) (payload : List (PyStr × Json)) : Prop :=
  ∀ parts ∈ (unwrapTransferPayload payload).toOption, destinationOf rt parts.1 ≠ [] ∧
    ∀ number ∈ manifestNumbers rt parts.2, ∃ q,
      (transferUuidOf rt parts.1 payload, destinationOf rt parts.1, number) ∈ (w q).announced

/-- No node has a serial under the number or announced one. -/
def Unused (number : PyStr) : Prop :=
  ∀ q, (∀ s ∈ (w q).serials, s.serialNumber ≠ number) ∧ ∀ a ∈ (w q).announced, a.2.2 ≠ number

/-- What Master may tell a node: it relays what was announced, and gives out numbers once. -/
def Honest (rt : Runtime) (parts : CommandParts) : Prop :=
  ((parts.commandType = py "TRANSFER_AVAILABLE" ∨ parts.commandType = py "TRANSFER_INCOMING") →
      Relayed w rt parts.payload) ∧
    (parts.commandType = py "QR_ALLOCATED" →
      ∀ listed ∈ (parseAllocatedSerials rt parts.payload).toOption,
      ∀ l ∈ listed, Unused w l.serialNumber) ∧
    (parts.commandType = py "QR_REPLACE" →
      ∀ r ∈ (parseReplace parts.payload).toOption, Unused w r.newNumber)

/-- The UUID of the transfer that an action opens. -/
def StockAction.newTransfer : StockAction → Option PyStr
  | .order (.openTransfer _ _ _ uuid) => some uuid
  | _ => none

/-- The command that an action applies. -/
def StockAction.told (rt : Runtime) : StockAction → Option CommandParts
  | .command _ _ fields => (commandParts rt fields).toOption
  | _ => none

/-- What is asked of a step of the network: a new transfer's UUID is new, and Master is honest. -/
def Faithful (rt : Runtime) (a : StockAction) : Prop :=
  (∀ uuid ∈ a.newTransfer, ∀ q, ∀ t ∈ (w q).transfers, t.transferUuid ≠ uuid) ∧
    ∀ parts ∈ a.told rt, Honest w rt parts

/-- One node acts; the others do not notice. -/
def networkMachine (rt : Runtime) [DecidableEq ν] : Machine (ν → Db) (ν × StockAction) := fun w x =>
  some (Function.update w x.1 (stockStep rt (settings x.1) (w x.1) x.2))

/-- Nodes that sync, under franchise codes of their own. -/
structure Franchises : Prop where
  sync : ∀ p, (settings p).masterSyncEnabled = true
  codes : ∀ p q, normalizeFranchiseCode (settings p).franchiseCode =
    normalizeFranchiseCode (settings q).franchiseCode → p = q

/-- A serial with the number is here, at the node. -/
def HereAt (p : ν) (number : PyStr) : Prop := (w p).Here number

/-- The number was announced in a transfer, and no node has received it from that transfer. -/
def UnderWay (transferUuid number : PyStr) : Prop :=
  (∃ q code, (transferUuid, code, number) ∈ (w q).announced) ∧
    ∀ q i, Incoming (w q) (transferUuid, number) i → i.received = false

/-- Before the first transfer: every number is at one node at most. -/
structure FreshNetwork : Prop where
  keyed : ∀ p, (w p).Keyed
  named : ∀ p, (w p).Named
  transfers : ∀ p, (w p).transfers = []
  announced : ∀ p, (w p).announced = []
  one : ∀ p q number, HereAt w p number → HereAt w q number → p = q

/-- Every number is in one place: at one node, or in one transfer that is under way. -/
structure OnePlace : Prop where
  here : ∀ p q number, HereAt w p number → HereAt w q number → p = q
  away : ∀ p transferUuid number, HereAt w p number → ¬ UnderWay w transferUuid number
  one : ∀ u v number, UnderWay w u number → UnderWay w v number → u = v
  /-- What a node is told of was announced to it. -/
  told : ∀ p transferUuid number i, Incoming (w p) (transferUuid, number) i →
    ∃ q, (transferUuid, normalizeFranchiseCode (settings p).franchiseCode, number) ∈ (w q).announced

/-- The nodes whose code it is. -/
def Addressed (code : PyStr) (p : ν) : Prop :=
  normalizeFranchiseCode (settings p).franchiseCode = code

/-- What every faithful step of a network keeps. -/
structure Linked : Prop where
  keyed : ∀ p, (w p).Keyed
  named : ∀ p, (w p).Named
  left : ∀ p, (w p).AnnouncedLeft
  kept : Kept (Addressed settings) fun p => (w p).party

variable {settings w}

/-- A fresh network is linked. -/
theorem linked_of_fresh (h : FreshNetwork w) : Linked settings w := by
  refine ⟨h.keyed, h.named, fun p a ha => absurd (h.announced p ▸ ha) List.not_mem_nil, ?_⟩
  have hincoming : ∀ p x i, ¬ Incoming (w p) x i := by
    intro p x i ⟨_, _, t, ht, _⟩
    exact absurd (h.transfers p ▸ ht) List.not_mem_nil
  refine kept_of_start (fun {a p q} hp hq => h.one p q a hp hq) ?_ ?_ ?_ ?_
  · intro p q u ⟨t, ht, _⟩
    exact absurd (h.transfers p ▸ ht) List.not_mem_nil
  · intro p
    ext a
    refine ⟨fun ha => ?_, fun ha => absurd ha (Set.notMem_empty a)⟩
    have hnone : a ∈ (w p).announced := ha
    rw [h.announced p] at hnone
    exact absurd hnone List.not_mem_nil
  · intro p
    ext x
    exact ⟨fun ⟨i, hi⟩ => absurd hi (hincoming p x i), fun hx => absurd hx (Set.notMem_empty x)⟩
  · intro p
    ext x
    exact ⟨fun ⟨i, hi, _⟩ => absurd hi (hincoming p x i), fun hx => absurd hx (Set.notMem_empty x)⟩

/-- In a linked network every unit is in one place. -/
theorem onePlace_of_linked (h : Linked settings w) : OnePlace settings w := by
  have hway : ∀ {u number}, UnderWay w u number → At (fun p => (w p).party) number (.inr u) := by
    intro u number ⟨⟨q, code, hsent⟩, hopen⟩
    refine .sent (p := q) (d := code) hsent fun r hr => ?_
    obtain ⟨i, hi, hreceived⟩ := hr
    rw [hopen r i hi] at hreceived
    cases hreceived
  constructor
  · intro p q number hp hq
    exact Sum.inl.inj (h.kept.one (.held hp) (.held hq))
  · intro p u number hp hu
    exact nomatch h.kept.one (.held hp) (hway hu)
  · intro u v number hu hv
    exact Sum.inr.inj (h.kept.one (hway hu) (hway hv))
  · intro p u number i hi
    obtain ⟨q, code, hsent, haddressed⟩ := h.kept.due ⟨i, hi⟩
    refine ⟨q, ?_⟩
    rw [show normalizeFranchiseCode (settings p).franchiseCode = code from haddressed]
    exact hsent

/-! ## What an honest command says of the parties -/

section Honest

variable {world : ν → Party PyStr PyStr PyStr} {parts : CommandParts}

/-- A number never used is nowhere. -/
theorem unused_nowhere (hworld : ∀ q, world q = (w q).party) {number : PyStr} (h : Unused w number)
    (x : ν ⊕ PyStr) :
    ¬ At world number x := by
  intro hx
  cases hx with
  | @held p hx =>
    rw [hworld p] at hx
    obtain ⟨s, hs, hnumber, -⟩ := hx
    exact (h p).1 s hs hnumber
  | @sent p u d hx _ =>
    rw [hworld p] at hx
    exact (h p).2 _ hx rfl

/-- What an honest command brings was announced to the node, or is new. -/
theorem honest_brings (hworld : ∀ q, world q = (w q).party) (hsync : st.masterSyncEnabled = true)
    (h : Honest w rt parts) : parts.Brings rt st
      (fun transferUuid number =>
        ∃ q, (transferUuid, normalizeFranchiseCode st.franchiseCode, number) ∈ (world q).sent)
      fun number => ∀ x, ¬ At world number x := by
  obtain ⟨hrelayed, hallocated, hreplaced⟩ := h
  constructor
  · intro htype data manifest t hunwrap hparsed number hnumber
    obtain ⟨hnamed, hnumbers⟩ := hrelayed htype (data, manifest) (by rw [hunwrap]; rfl)
    obtain ⟨q, hq⟩ := hnumbers number hnumber
    rw [parseIncoming_addressed hparsed hsync hnamed] at hq
    exact ⟨q, by rw [hworld q]; exact hq⟩
  · intro htype listed hlisted l hl
    exact unused_nowhere hworld (hallocated htype listed (by rw [hlisted]; rfl) l hl)
  · intro htype r hr
    exact unused_nowhere hworld (hreplaced htype r (by rw [hr]; rfl))

end Honest

/-! ## Runs -/

variable [DecidableEq ν]

/-- A step of a node keeps what the network keeps. -/
theorem stockStep_linked (hf : Franchises settings) (h : Linked settings w) {p : ν}
    {a : StockAction} (hfaithful : Faithful w rt a) :
    Linked settings (Function.update w p (stockStep rt (settings p) (w p) a)) := by
  let world (db : Db) (q : ν) : Party PyStr PyStr PyStr := (Function.update w p db q).party
  let I (db : Db) : Prop :=
    db.Keyed ∧ db.Named ∧ db.AnnouncedLeft ∧ Kept (Addressed settings) (world db)
  -- The world with the state of this node written into it.
  have hself : ∀ db, world db p = db.party := fun db => by
    show (Function.update w p db p).party = db.party
    rw [Function.update_self]
  have hmine : ∀ q, world (w p) q = (w q).party := fun q => by
    show (Function.update w p (w p) q).party = (w q).party
    rw [Function.update_eq_self]
  -- A step of this node that moves parcels as the network knows them keeps the network.
  have hkept : ∀ (Opens New : PyStr → Prop) {db db' : Db}, db.Keyed → db.AnnouncedLeft →
      Kept (Addressed settings) (world db) →
      (∀ transferUuid, Opens transferUuid → ∀ q, transferUuid ∉ (world db q).opened) →
      (∀ number, New number → ∀ x, ¬ At (world db) number x) →
      Shipment Opens (fun transferUuid number => ∃ q,
        (transferUuid, normalizeFranchiseCode (settings p).franchiseCode, number) ∈
            (world db q).sent) New db db' →
      db'.AnnouncedLeft ∧ Kept (Addressed settings) (world db') := by
    intro Opens New db db' hk hleft hkept hopens hnew hship
    have hstep : Step (Addressed settings) (world db) p db'.party :=
      hship.step (hself db) hk hleft hopens (fun _ _ ⟨q, hq⟩ => ⟨q, _, hq, rfl⟩) hnew
    have hworld : Function.update (world db) p db'.party = world db' := by
      funext q
      by_cases hq : q = p
      · subst hq
        rw [Function.update_self, hself]
      · rw [Function.update_of_ne hq]
        show (Function.update w p db q).party = (Function.update w p db' q).party
        rw [Function.update_of_ne hq, Function.update_of_ne hq]
    refine ⟨hship.left hk hleft, ?_⟩
    rw [← hworld]
    exact hstep.kept hkept fun hq hr => hf.codes _ _ (hq.trans hr.symm)
  -- The run starts from a state of the node that the world already holds.
  have hstart : I (w p) := by
    refine ⟨h.keyed p, h.named p, h.left p, ?_⟩
    rw [show world (w p) = fun q => (w q).party from funext hmine]
    exact h.kept
  -- Moving stock between shelves is no step of the network.
  have hrelocated : ∀ m {db db' : Db} {u : PUnit}, I db →
      relocateStock (settings p) m db = (.ok u, db') → I db' := by
    intro m db db' u hI hx
    obtain ⟨hk, hn, hleft, hworld⟩ := hI
    refine ⟨relocateStock_keyed _ m db db' u hk hx, relocateStock_named _ m db db' u hn hx, ?_⟩
    exact hkept (fun _ => False) (fun _ => False) hk hleft hworld (fun _ hno => hno.elim)
      (fun _ hno => hno.elim) (relocateStock_shipment hx)
  -- By the action: a request with the writes it asks for, a relocation, a command of Master.
  have hend : I (stockStep rt (settings p) (w p) a) := by
    cases a with
    | order o =>
      refine stockStep_invariant
          (Q := fun c t => Ready rt c t ∧ ∀ row, c = .createTransfer row → t = w p ∧
        ∃ user peerCode notes,
        o = .openTransfer user peerCode notes row.transferUuid) ?_ ?_ ?_ ?_ hstart
      · intro o' ho
        obtain rfl := StockAction.order.inj ho
        exact (request_ready (settings p) (h.keyed p).serials o).and
          (request_opens (h.keyed p).serials o)
      · intro c db db' hI hc hx
        obtain ⟨hk, hn, hleft, hworld⟩ := hI
        obtain ⟨hready, hopens⟩ := hc
        refine ⟨ready_keyed hk hready hx, ready_named hn hready hx, ?_⟩
        refine hkept
          (fun transferUuid => ∃ row, c = .createTransfer row ∧ row.transferUuid = transferUuid)
          (fun _ => False) hk hleft hworld ?_ (fun _ hno => hno.elim)
          (ready_shipment hk hn (fun row he => ⟨row, he, rfl⟩) hready hx)
        intro transferUuid hopen q hopened
        obtain ⟨row, hrow, rfl⟩ := hopen
        obtain ⟨rfl, user, peerCode, notes, rfl⟩ := hopens row hrow
        rw [hmine q] at hopened
        obtain ⟨t, ht, -, huuid⟩ := hopened
        exact hfaithful.1 _ rfl q t ht huuid
      · intro m db db' u hI hx
        exact hrelocated m hI hx
      · intro _ _ _ he
        cases he
    | relocate m =>
      exact Tx.Preserves.atomically (fun db db' u hI hx => hrelocated m hI hx) hstart
    | command now uuid fields =>
      show I (Tx.atomically (applyMasterCommand rt (settings p) now uuid fields) (w p)).2
      rcases Tx.atomically_cases (applyMasterCommand rt (settings p) now uuid fields) (w p) with
        ⟨row, db', hx, hrun⟩ | ⟨e, db', hx, hrun⟩
      · rw [hrun]
        obtain ⟨hk, hn, hleft, hworld⟩ := hstart
        refine ⟨applyMasterCommand_keyed rt (settings p) now uuid fields _ db' row hk hx,
          applyMasterCommand_named rt (settings p) now uuid fields _ db' row hn hx, ?_⟩
        refine hkept (fun _ => False) _ hk hleft hworld (fun _ hno => hno.elim) (fun _ hnew => hnew)
          (applyMasterCommand_shipment hk (fun parts hparts => ?_) hx)
        exact honest_brings hmine (hf.sync p) (hfaithful.2 parts
          (show (commandParts rt fields).toOption = some parts by rw [hparts]; rfl))
      · rw [hrun]
        exact hstart
  obtain ⟨hk, hn, hleft, hworld⟩ := hend
  -- Nothing else of the world has changed.
  have hall : ∀ {P : Db → Prop}, P (stockStep rt (settings p) (w p) a) → (∀ q, P (w q)) →
      ∀ q, P (Function.update w p (stockStep rt (settings p) (w p) a) q) := fun hnew hold =>
    (Function.forall_update_iff w fun _ db => _).mpr ⟨hnew, fun q _ => hold q⟩
  exact ⟨hall hk h.keyed, hall hn h.named, hall hleft h.left, hworld⟩

/-- Whatever the nodes do and whenever Master relays it, a number is in one place: at one
node, or in one transfer that is under way. -/
theorem one_place (hf : Franchises settings) (h : FreshNetwork w) {as : List (ν × StockAction)}
    {w' : ν → Db}
    (hfaithful : Guarded (networkMachine settings rt) (fun w x => Faithful w rt x.2) w as)
    (hexec : exec (networkMachine settings rt) w as = some w') : OnePlace settings w' := by
  refine onePlace_of_linked
    (guarded_invariant (I := Linked settings) ?_ (linked_of_fresh h) hfaithful hexec)
  intro w x w' hlinked hx hstep
  obtain rfl := Option.some.inj hstep
  exact stockStep_linked hf hlinked hx

end Network

/-! ## Two stores -/

section Decidable

variable {ν : Type} [Fintype ν] (w : ν → Db)

instance (payload : List (PyStr × Json)) : Decidable (Relayed w rt payload) := by
  unfold Relayed
  infer_instance

instance (number : PyStr) : Decidable (Unused w number) := by
  unfold Unused
  infer_instance

instance (parts : CommandParts) : Decidable (Honest w rt parts) := by
  unfold Honest
  infer_instance

instance (a : StockAction) : Decidable (Faithful w rt a) := by
  unfold Faithful
  infer_instance

end Decidable

/-- The first store has two lamps; the second has told Master that it has nothing. -/
def twoStores : Bool → Db
  | false => lampsDb
  | true => { lampsDb with
    products := []
    serials := []
    outbox := lampsDb.outbox.map fun e =>
      { e with aggregateId := py "NORTH:INITIAL-INVENTORY:PART-1" } }

def twoSettings : Bool → Settings
  | false => homeSettings
  | true => { homeSettings with franchiseCode := py "NORTH" }

/-- Master relays the first lamp to the second store. -/
def lampComes (commandId : PyStr) : List (PyStr × Json) :=
  [(py "command_id", .str commandId), (py "command_type", .str (py "TRANSFER_AVAILABLE")),
    (py "payload", .obj [(py "transfer_uuid", .str (py "T-1")),
      (py "source_franchise_code", .str (py "HOME")),
      (py "destination_franchise_code", .str (py "NORTH")),
      (py "items", .arr [.obj [(py "serial_number", .str (py "LAMP-1")),
        (py "product_code", .str (py "LAMP")), (py "product_name", .str (py "Lamp")),
        (py "hsn", .str (py "9405")), (py "unit", .str (py "Pcs")), (py "gst_rate", .int 0)]])])]

/-- The lamp is sent, told of twice and received; its sender is told of the receipt. -/
def lampSent : List (Bool × StockAction) :=
  [(false, .order (.openTransfer storeClerk (py "NORTH") none (py "T-1"))),
    (false, .order (.addSerial 1 (py "LAMP-1"))),
    (false, .order
        (.dispatch 1 ⟨storeClerk, 63900000000000000, py "11111111-1111-4111-8111-111111111112"⟩)),
    (true, .command 63900000000000001 (py "22222222-2222-4222-8222-222222222222")
        (lampComes (py "5"))),
    (true, .command 63900000000000002 (py "22222222-2222-4222-8222-222222222223")
        (lampComes (py "6"))),
    (true, .order (.scanReceipt 1 (py "LAMP-1") 63900000000000003)),
    (true, .order
        (.receive 1 ⟨storeClerk, 63900000000000004, py "11111111-1111-4111-8111-111111111113"⟩)),
    (false, .command 63900000000000005 (py "22222222-2222-4222-8222-222222222224") firstReceived)]

theorem twoStores_fresh : FreshNetwork twoStores := by
  have hnorth : ∀ number, ¬ HereAt twoStores true number :=
    fun number ⟨s, hs, _⟩ => absurd hs List.not_mem_nil
  constructor
  · intro p
    cases p with
    | false => exact lampsDb_valid.1
    | true => constructor <;> decide +kernel
  · intro p
    cases p with
    | false => exact lampsDb_valid.2
    | true => constructor <;> decide +kernel
  · intro p
    cases p <;> rfl
  · intro p
    cases p <;> rfl
  · intro p q number hp hq
    cases p with
    | true => exact absurd hp (hnorth number)
    | false =>
      cases q with
      | true => exact absurd hq (hnorth number)
      | false => rfl

theorem one_place_lamp : ∃ w, exec (networkMachine twoSettings .plain) twoStores lampSent = some w ∧
    HereAt w true (py "LAMP-1") ∧ OnePlace twoSettings w := by
  have hrun : (exec (networkMachine twoSettings .plain) twoStores lampSent).map (fun w => decide
      (∃ s ∈ (w true).serials, s.serialNumber = py "LAMP-1" ∧ s.here = true)) = some true := by
    decide +kernel
  have hfaithful : Guarded (networkMachine twoSettings .plain)
      (fun w x => Faithful w .plain x.2) twoStores
      lampSent := by
    decide +kernel
  obtain ⟨w, hw, hhere⟩ := Option.map_eq_some_iff.mp hrun
  have hnorth : ∃ s ∈ (w true).serials, s.serialNumber = py "LAMP-1" ∧ s.here = true :=
    of_decide_eq_true hhere
  refine ⟨w, hw, hnorth, one_place ⟨?_, ?_⟩ twoStores_fresh hfaithful hw⟩
  · intro p
    cases p <;> rfl
  · decide +kernel

end SetuoraLite
