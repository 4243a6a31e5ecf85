import SwCouriers.AllocationWrites
import SwCouriers.BillingInvariant
import SwCouriers.SettlementTxns

/-!
# No Invoice Is Settled Beyond Its Total

The balance checks of the settling calls read without a lock. They are safe because of what
comes after them: before a call commits it has updated the payment row and the row of every
invoice it touches, each at the version that was read before the balance was computed, and
an update keeps the row locked until the commit. Every commit that adds to a balance moves
the version of the row, so a version that is still the same means that the balance is no
larger than it was when it was read.

## Main results

* `settlementDiscipline`: what every committed database satisfies, and what may happen to a
  row between two statements.
* `commits_of_rewrites`: when the writes of a call may be committed.
* `wp_writeAllocations`: a call whose checks held when it read may write its allocations.
-/

namespace SwCouriers

open Checked ReadCommitted

/-! ### What the writes of a transaction do -/

/-- Inserting rows adds at most their amounts to a sum. -/
theorem sumWhere_foldl_insert_le {rows : List BillingPaymentAllocation}
    (hpos : ∀ a ∈ rows, 0 < a.allocatedAmount) (p : BillingPaymentAllocation → Prop)
    [DecidablePred p] (t : Table BillingPaymentAllocation.key) :
    (rows.foldl Table.insert t).sumWhere p (·.allocatedAmount)
      ≤ t.sumWhere p (·.allocatedAmount)
        + ((rows.filter fun a => p a).map (·.allocatedAmount)).sum := by
  induction rows generalizing t with
  | nil => simp
  | cons a rows ih =>
      obtain ⟨ha, hrows⟩ := List.forall_mem_cons.mp hpos
      have hinsert : (t.insert a).sumWhere p (·.allocatedAmount)
          ≤ t.sumWhere p (·.allocatedAmount) + if p a then a.allocatedAmount else 0 := by
        by_cases hkey : a.key ∈ t.rows.map BillingPaymentAllocation.key
        · have hsame : t.insert a = t := dif_pos hkey
          rw [hsame]
          split_ifs <;> omega
        · exact (Table.sumWhere_insert hkey).le
      have hrest := ih hrows (t.insert a)
      rw [List.foldl_cons, List.filter_cons]
      by_cases hp : p a
      · simp only [hp, decide_true, if_true, List.map_cons, List.sum_cons] at hinsert ⊢
        omega
      · simp only [hp, decide_false, Bool.false_eq_true, if_false] at hinsert ⊢
        omega

theorem mem_foldl_insert {rows : List BillingPaymentAllocation}
    {t : Table BillingPaymentAllocation.key} {a : BillingPaymentAllocation}
    (ha : a ∈ (rows.foldl Table.insert t).rows) : a ∈ t.rows ∨ a ∈ rows := by
  induction rows generalizing t with
  | nil => exact .inl ha
  | cons b rows ih =>
      rcases ih ha with hold | hnew
      · by_cases hkey : b.key ∈ t.rows.map BillingPaymentAllocation.key
        · have hsame : t.insert b = t := dif_pos hkey
          exact .inl (hsame ▸ hold)
        · rw [Table.rows_insert_of_notMem hkey, List.mem_append, List.mem_singleton] at hold
          rcases hold with hold | rfl
          · exact .inl hold
          · exact .inr List.mem_cons_self
      · exact .inr (List.mem_cons_of_mem b hnew)

variable {p i : Id}

/-- Inserting rows of other payments leaves those of a payment alone. -/
theorem filter_foldl_insert {rows : List BillingPaymentAllocation}
    (hrows : ∀ a ∈ rows, a.paymentId ≠ p) (t : Table BillingPaymentAllocation.key) :
    ((rows.foldl Table.insert t).rows.filter fun a => a.paymentId = p)
      = t.rows.filter fun a => a.paymentId = p := by
  induction rows generalizing t with
  | nil => rfl
  | cons a rows ih =>
      obtain ⟨ha, hrows⟩ := List.forall_mem_cons.mp hrows
      rw [List.foldl_cons, ih hrows]
      by_cases hkey : a.key ∈ t.rows.map BillingPaymentAllocation.key
      · rw [Table.insert, dif_pos hkey]
      · rw [Table.rows_insert_of_notMem hkey, List.filter_append]
        simp [ha]

/-- The allocation rows of a payment. -/
def Db.paymentRows (db : Db) (paymentId : Id) : List BillingPaymentAllocation :=
  db.allocations.rows.filter fun a => a.paymentId = paymentId

/-- What stays on an invoice once the listed rows are deleted. -/
def Db.keptOn (db : Db) (deleted : List (Id × Id × ℕ)) (invoiceId : Id) : ℤ :=
  db.allocations.sumWhere (fun a => a.invoiceId = invoiceId ∧ a.key ∉ deleted)
    (·.allocatedAmount)

/-- What stays of a payment once the listed rows are deleted. -/
def keptOf (rows : List BillingPaymentAllocation) (deleted : List (Id × Id × ℕ)) : ℤ :=
  ((rows.filter fun a => a.key ∉ deleted).map (·.allocatedAmount)).sum

/-- A sum over the rows that a deletion leaves. -/
theorem sumWhere_deleteWhere_eq (t : Table BillingPaymentAllocation.key)
    (deleted : List (Id × Id × ℕ)) (p : BillingPaymentAllocation → Prop) [DecidablePred p] :
    (t.deleteWhere fun a => a.key ∈ deleted).sumWhere p (·.allocatedAmount)
      = t.sumWhere (fun a => p a ∧ a.key ∉ deleted) (·.allocatedAmount) := by
  rw [Table.sumWhere_deleteWhere, Table.sumWhere_split t fun a => a.key ∈ deleted]
  omega

/-- The first match is rewritten, or there is none. -/
theorem find?_getD_cases {α β : Type} (l : List α) (p : α → Prop) [DecidablePred p]
    (f : α → β) (b : β) :
    (∃ a ∈ l, p a ∧ ((l.find? fun a => p a).map f).getD b = f a) ∨
      (∀ a ∈ l, ¬ p a) ∧ ((l.find? fun a => p a).map f).getD b = b := by
  cases hfind : l.find? fun a => p a with
  | none =>
      refine .inr ⟨fun a ha hp => ?_, rfl⟩
      exact absurd (decide_eq_true hp) (List.find?_eq_none.mp hfind a ha)
  | some a =>
      have hp : p a := by simpa using List.find?_some hfind
      exact .inl ⟨a, List.mem_of_find?_eq_some hfind, hp, rfl⟩

namespace Writes

variable (w : Writes) (db : Db)

theorem find?_payments_apply (p : Id) :
    (w.apply db).payments.find? p = (db.payments.find? p).map w.payment :=
  Table.find?_mapRows db.payments w.payment w.payment_id p

theorem find?_invoices_apply (i : Id) :
    (w.apply db).invoices.find? i = (db.invoices.find? i).map w.invoice :=
  Table.find?_mapRows db.invoices w.invoice w.invoice_id i

theorem payment_cases (row : BillingPayment) :
    (∃ u ∈ w.payments, u.id = row.id ∧ w.payment row = u.write row) ∨
      (∀ u ∈ w.payments, ¬ u.id = row.id) ∧ w.payment row = row :=
  find?_getD_cases w.payments (fun u => u.id = row.id) (·.write row) row

theorem invoice_cases (row : Invoice) :
    (∃ u ∈ w.invoices, u.id = row.id ∧ w.invoice row = u.write row) ∨
      (∀ u ∈ w.invoices, ¬ u.id = row.id) ∧ w.invoice row = row :=
  find?_getD_cases w.invoices (fun u => u.id = row.id) (·.write row) row

theorem payment_amount (row : BillingPayment) : (w.payment row).amount = row.amount := by
  rcases w.payment_cases row with ⟨u, -, -, h⟩ | ⟨-, h⟩ <;> rw [h]
  rfl

theorem invoice_total (row : Invoice) : (w.invoice row).total = row.total := by
  rcases w.invoice_cases row with ⟨u, -, -, h⟩ | ⟨-, h⟩ <;> rw [h]
  rfl

/-- The rows of a payment that the writes have nothing to do with. -/
theorem paymentRows_apply (hinserted : ∀ a ∈ w.inserted, a.paymentId ≠ p)
    (hdeleted : ∀ k ∈ w.deleted, k.1 ≠ p) : (w.apply db).paymentRows p = db.paymentRows p := by
  rw [Db.paymentRows, Writes.apply, filter_foldl_insert hinserted, Table.deleteWhere,
    List.filter_filter, Db.paymentRows]
  refine List.filter_congr fun a _ => ?_
  by_cases hp : a.paymentId = p
  · have hkey : a.key ∉ w.deleted := fun hmem => hdeleted a.key hmem hp
    simp [hp, hkey]
  · simp [hp]

/-- What is on an invoice after the writes. -/
theorem totalAllocatedForInvoice_apply_le (hpos : ∀ a ∈ w.inserted, 0 < a.allocatedAmount)
    (i : Id) : (w.apply db).totalAllocatedForInvoice i ≤ db.keptOn w.deleted i
      + ((w.inserted.filter fun a => a.invoiceId = i).map (·.allocatedAmount)).sum := by
  refine (sumWhere_foldl_insert_le hpos (·.invoiceId = i) _).trans_eq ?_
  rw [sumWhere_deleteWhere_eq]
  rfl

/-- What is allocated of a payment after the writes. -/
theorem totalLatestAllocatedForPayment_apply_le
    (hpos : ∀ a ∈ w.inserted, 0 < a.allocatedAmount) (p : Id) :
    (w.apply db).totalLatestAllocatedForPayment p ≤ keptOf (db.paymentRows p) w.deleted
      + ((w.inserted.filter fun a => a.paymentId = p).map (·.allocatedAmount)).sum := by
  refine (sumWhere_foldl_insert_le hpos (·.paymentId = p) _).trans_eq ?_
  rw [sumWhere_deleteWhere_eq, Table.sumWhere, keptOf, Db.paymentRows, List.filter_filter]
  congr 3
  refine List.filter_congr fun a _ => ?_
  simp [Bool.and_comm]

/-- The credit on an invoice after the writes. -/
theorem getAppliedTotalForInvoice_apply (i : Id) :
    (w.apply db).getAppliedTotalForInvoice i = db.getAppliedTotalForInvoice i
      + ((w.applied.filter fun a => a.invoiceId = i).map (·.appliedAmount)).sum := by
  simp only [Db.getAppliedTotalForInvoice, Writes.apply]
  generalize db.creditApplications = t
  induction w.applied generalizing t with
  | nil => simp
  | cons a applied ih =>
      rw [List.foldl_cons, ih, Table.sumWhere_insert (t.fresh_notMem)]
      by_cases hi : a.invoiceId = i <;> simp [hi, add_assoc]

end Writes

/-! ### The discipline -/

/-- What every committed database satisfies. -/
structure SettlementInv (db : Db) : Prop where
  positive : db.PositiveRows
  payments : ∀ p row, db.payments.find? p = some row →
    db.totalLatestAllocatedForPayment p ≤ row.amount
  invoices : ∀ i row, db.invoices.find? i = some row →
    db.totalAllocatedForInvoice i + db.getAppliedTotalForInvoice i ≤ row.total

/-- How the rows evolve: amounts and totals stay. As long as a payment is at the same
version its allocation rows are the same, and as long as an invoice is, what is settled of it
does not grow. Versions move only where rows may be touched. -/
structure Evolves (touched : SettlementLock → Prop) (db db' : Db) : Prop where
  payments : ∀ p row, db.payments.find? p = some row →
    ∃ row', db'.payments.find? p = some row' ∧ row'.amount = row.amount ∧
      (row'.version = row.version ∧ db'.paymentRows p = db.paymentRows p ∨
        row.version < row'.version ∧ touched (.payment p))
  invoices : ∀ i row, db.invoices.find? i = some row →
    ∃ row', db'.invoices.find? i = some row' ∧ row'.total = row.total ∧
      (row'.version = row.version ∧
          db'.totalAllocatedForInvoice i ≤ db.totalAllocatedForInvoice i ∧
          db'.getAppliedTotalForInvoice i ≤ db.getAppliedTotalForInvoice i ∨
        row.version < row'.version ∧ touched (.invoice i))

theorem Evolves.refl (touched : SettlementLock → Prop) (db : Db) : Evolves touched db db :=
  ⟨fun _ row h => ⟨row, h, rfl, .inl ⟨rfl, rfl⟩⟩,
    fun _ row h => ⟨row, h, rfl, .inl ⟨rfl, le_rfl, le_rfl⟩⟩⟩

theorem Evolves.trans {touched : SettlementLock → Prop} {db₁ db₂ db₃ : Db}
    (h₁ : Evolves touched db₁ db₂) (h₂ : Evolves touched db₂ db₃) :
    Evolves touched db₁ db₃ := by
  constructor
  · intro p row hrow
    obtain ⟨row₂, hrow₂, hamount₂, hstep₂⟩ := h₁.payments p row hrow
    obtain ⟨row₃, hrow₃, hamount₃, hstep₃⟩ := h₂.payments p row₂ hrow₂
    refine ⟨row₃, hrow₃, hamount₃.trans hamount₂, ?_⟩
    rcases hstep₂ with ⟨hv₂, hrows₂⟩ | ⟨hv₂, ht⟩ <;>
      rcases hstep₃ with ⟨hv₃, hrows₃⟩ | ⟨hv₃, ht'⟩
    · exact .inl ⟨hv₃.trans hv₂, hrows₃.trans hrows₂⟩
    · exact .inr ⟨hv₂ ▸ hv₃, ht'⟩
    · exact .inr ⟨hv₃ ▸ hv₂, ht⟩
    · exact .inr ⟨hv₂.trans hv₃, ht⟩
  · intro i row hrow
    obtain ⟨row₂, hrow₂, htotal₂, hstep₂⟩ := h₁.invoices i row hrow
    obtain ⟨row₃, hrow₃, htotal₃, hstep₃⟩ := h₂.invoices i row₂ hrow₂
    refine ⟨row₃, hrow₃, htotal₃.trans htotal₂, ?_⟩
    rcases hstep₂ with ⟨hv₂, ha₂, hc₂⟩ | ⟨hv₂, ht⟩ <;>
      rcases hstep₃ with ⟨hv₃, ha₃, hc₃⟩ | ⟨hv₃, ht'⟩
    · exact .inl ⟨hv₃.trans hv₂, ha₃.trans ha₂, hc₃.trans hc₂⟩
    · exact .inr ⟨hv₂ ▸ hv₃, ht'⟩
    · exact .inr ⟨hv₃ ▸ hv₂, ht⟩
    · exact .inr ⟨hv₂.trans hv₃, ht⟩

theorem Evolves.mono {touched touched' : SettlementLock → Prop} {db db' : Db}
    (hsub : ∀ k, touched k → touched' k) (h : Evolves touched db db') :
    Evolves touched' db db' := by
  constructor
  · intro p row hrow
    obtain ⟨row', hrow', hamount, hstep⟩ := h.payments p row hrow
    exact ⟨row', hrow', hamount, hstep.imp id fun ⟨hv, ht⟩ => ⟨hv, hsub _ ht⟩⟩
  · intro i row hrow
    obtain ⟨row', hrow', htotal, hstep⟩ := h.invoices i row hrow
    exact ⟨row', hrow', htotal, hstep.imp id fun ⟨hv, ht⟩ => ⟨hv, hsub _ ht⟩⟩

/-- The discipline of the settling transactions. -/
def settlementDiscipline : Discipline Db SettlementLock where
  inv := SettlementInv
  evolves := Evolves
  refl := Evolves.refl
  trans := Evolves.trans
  mono := Evolves.mono

/-! ### Commits -/

/-- When the writes of a transaction may be committed: everything that they add to is locked
and moves to a new version, and no balance is exceeded. -/
structure Committable (w : Writes) (db : Db) (held : SettlementLock → Prop) : Prop where
  positive : ∀ a ∈ w.inserted, 0 < a.allocatedAmount
  ofPayment : ∀ a ∈ w.inserted, ∃ u ∈ w.payments, u.id = a.paymentId
  deleted : ∀ k ∈ w.deleted, ∃ u ∈ w.payments, u.id = k.1
  onInvoice : ∀ a ∈ w.inserted, ∃ u ∈ w.invoices, u.id = a.invoiceId
  credited : ∀ a ∈ w.applied, ∃ u ∈ w.invoices, u.id = a.invoiceId
  payments : ∀ u ∈ w.payments, held (.payment u.id) ∧
    ∀ row, db.payments.find? u.id = some row → row.version < u.version ∧
      (w.apply db).totalLatestAllocatedForPayment u.id ≤ row.amount
  invoices : ∀ u ∈ w.invoices, held (.invoice u.id) ∧
    ∀ row, db.invoices.find? u.id = some row → row.version < u.version ∧
      (w.apply db).totalAllocatedForInvoice u.id + (w.apply db).getAppliedTotalForInvoice u.id
        ≤ row.total

theorem keptOn_le {db : Db} (hpos : db.PositiveRows) (deleted : List (Id × Id × ℕ)) (i : Id) :
    db.keptOn deleted i ≤ db.totalAllocatedForInvoice i := by
  have hdeleted : 0 ≤ db.allocations.sumWhere
      (fun a => a.invoiceId = i ∧ ¬ a.key ∉ deleted) (·.allocatedAmount) :=
    Table.sumWhere_nonneg fun a ha _ => (hpos a ha).le
  rw [Db.totalAllocatedForInvoice,
    Table.sumWhere_split db.allocations fun a => a.key ∉ deleted, Db.keptOn]
  omega

section Commits

variable {w : Writes} {db : Db} {held : SettlementLock → Prop}

/-- A payment that is not updated keeps its rows. -/
theorem Committable.paymentRows_eq (h : Committable w db held) (hp : ∀ u ∈ w.payments, ¬ u.id = p) :
    (w.apply db).paymentRows p = db.paymentRows p := by
  refine w.paymentRows_apply db (fun a ha heq => ?_) fun k hk heq => ?_
  · obtain ⟨u, hu, hid⟩ := h.ofPayment a ha
    exact hp u hu (hid.trans heq)
  · obtain ⟨u, hu, hid⟩ := h.deleted k hk
    exact hp u hu (hid.trans heq)

/-- An invoice that is not updated is settled no further. -/
theorem Committable.settled_le (h : Committable w db held) (hpos : db.PositiveRows)
    (hi : ∀ u ∈ w.invoices, ¬ u.id = i) :
    (w.apply db).totalAllocatedForInvoice i ≤ db.totalAllocatedForInvoice i ∧
      (w.apply db).getAppliedTotalForInvoice i ≤ db.getAppliedTotalForInvoice i := by
  have hinserted : (w.inserted.filter fun a => a.invoiceId = i) = [] := by
    refine List.filter_eq_nil_iff.mpr fun a ha => ?_
    obtain ⟨u, hu, hid⟩ := h.onInvoice a ha
    simpa using fun heq => hi u hu (hid.trans heq)
  have happlied : (w.applied.filter fun a => a.invoiceId = i) = [] := by
    refine List.filter_eq_nil_iff.mpr fun a ha => ?_
    obtain ⟨u, hu, hid⟩ := h.credited a ha
    simpa using fun heq => hi u hu (hid.trans heq)
  have hallocated := w.totalAllocatedForInvoice_apply_le db h.positive i
  have hcredited := w.getAppliedTotalForInvoice_apply db i
  have hkept := keptOn_le hpos w.deleted i
  rw [hinserted, List.map_nil, List.sum_nil] at hallocated
  rw [happlied, List.map_nil, List.sum_nil] at hcredited
  omega

theorem totalLatestAllocatedForPayment_eq (db : Db) (p : Id) :
    db.totalLatestAllocatedForPayment p = ((db.paymentRows p).map (·.allocatedAmount)).sum :=
  rfl

theorem Committable.evolves (h : Committable w db held) (hpos : db.PositiveRows) :
    Evolves held db (w.apply db) := by
  constructor
  · intro p row hrow
    have hid : row.id = p := (Table.find?_eq_some_iff.mp hrow).2
    refine ⟨w.payment row, by rw [w.find?_payments_apply, hrow, Option.map_some],
      w.payment_amount row, ?_⟩
    rcases w.payment_cases row with ⟨u, hu, huid, heq⟩ | ⟨hnone, heq⟩
    · obtain rfl : u.id = p := huid.trans hid
      obtain ⟨hheld, hafter⟩ := h.payments u hu
      rw [heq]
      exact .inr ⟨(hafter row hrow).1, hheld⟩
    · rw [heq]
      exact .inl ⟨rfl, h.paymentRows_eq fun u hu huid => hnone u hu (huid.trans hid.symm)⟩
  · intro i row hrow
    have hid : row.id = i := (Table.find?_eq_some_iff.mp hrow).2
    refine ⟨w.invoice row, by rw [w.find?_invoices_apply, hrow, Option.map_some],
      w.invoice_total row, ?_⟩
    rcases w.invoice_cases row with ⟨u, hu, huid, heq⟩ | ⟨hnone, heq⟩
    · obtain rfl : u.id = i := huid.trans hid
      obtain ⟨hheld, hafter⟩ := h.invoices u hu
      rw [heq]
      exact .inr ⟨(hafter row hrow).1, hheld⟩
    · rw [heq]
      exact .inl ⟨rfl, h.settled_le hpos fun u hu huid => hnone u hu (huid.trans hid.symm)⟩

theorem Committable.inv (h : Committable w db held) (hinv : SettlementInv db) :
    SettlementInv (w.apply db) := by
  constructor
  · intro a ha
    rcases mem_foldl_insert ha with hold | hnew
    · exact hinv.positive a (Table.mem_deleteWhere_iff.mp hold).1
    · exact h.positive a hnew
  · intro p row' hrow'
    rw [w.find?_payments_apply] at hrow'
    obtain ⟨row, hrow, rfl⟩ := Option.map_eq_some_iff.mp hrow'
    rw [w.payment_amount]
    by_cases hp : ∃ u ∈ w.payments, u.id = p
    · obtain ⟨u, hu, rfl⟩ := hp
      exact ((h.payments u hu).2 row hrow).2
    · rw [totalLatestAllocatedForPayment_eq,
        h.paymentRows_eq fun u hu hid => hp ⟨u, hu, hid⟩]
      exact hinv.payments p row hrow
  · intro i row' hrow'
    rw [w.find?_invoices_apply] at hrow'
    obtain ⟨row, hrow, rfl⟩ := Option.map_eq_some_iff.mp hrow'
    rw [w.invoice_total]
    by_cases hi : ∃ u ∈ w.invoices, u.id = i
    · obtain ⟨u, hu, rfl⟩ := hi
      exact ((h.invoices u hu).2 row hrow).2
    · obtain ⟨ha, hc⟩ := h.settled_le hinv.positive fun u hu hid => hi ⟨u, hu, hid⟩
      exact (add_le_add ha hc).trans (hinv.invoices i row hrow)

/-- Writes that respect every balance may be committed. -/
theorem commits_of_rewrites (hinv : SettlementInv db) (h : Committable w db held) :
    settlementDiscipline.Commits w.apply db held :=
  ⟨h.inv hinv, h.evolves hinv.positive⟩

end Commits

/-! ### What a transaction remembers -/

/-- What the other transactions may do while rows are held. -/
abbrev Others (held : SettlementLock → Prop) (db db' : Db) : Prop :=
  settlementDiscipline.Rely held db db'

/-- The payment was read at a version that has been reached. -/
def PaymentSeen (payment : BillingPayment) (db : Db) : Prop :=
  ∃ row, db.payments.find? payment.id = some row ∧ row.amount = payment.amount ∧
    payment.version ≤ row.version

/-- The payment is still at the version that was read. -/
def PaymentFresh (payment : BillingPayment) (db : Db) : Prop :=
  ∃ row, db.payments.find? payment.id = some row ∧ row.version = payment.version

def InvoiceSeen (inv : Invoice) (db : Db) : Prop :=
  ∃ row, db.invoices.find? inv.id = some row ∧ row.total = inv.total ∧
    inv.version ≤ row.version

def InvoiceFresh (inv : Invoice) (db : Db) : Prop :=
  ∃ row, db.invoices.find? inv.id = some row ∧ row.version = inv.version

section Memory

variable {held : SettlementLock → Prop} {db db' : Db} {payment : BillingPayment}
  {inv : Invoice}

theorem PaymentSeen.later (h : PaymentSeen payment db) (hothers : Others held db db') :
    PaymentSeen payment db' := by
  obtain ⟨row, hrow, hamount, hversion⟩ := h
  obtain ⟨row', hrow', hamount', hstep⟩ := hothers.1.payments _ row hrow
  refine ⟨row', hrow', hamount'.trans hamount, ?_⟩
  rcases hstep with ⟨hv, -⟩ | ⟨hv, -⟩ <;> omega

theorem InvoiceSeen.later (h : InvoiceSeen inv db) (hothers : Others held db db') :
    InvoiceSeen inv db' := by
  obtain ⟨row, hrow, htotal, hversion⟩ := h
  obtain ⟨row', hrow', htotal', hstep⟩ := hothers.1.invoices _ row hrow
  refine ⟨row', hrow', htotal'.trans htotal, ?_⟩
  rcases hstep with ⟨hv, -⟩ | ⟨hv, -⟩ <;> omega

/-- A payment that is still at the version that was read was so all along, with the same
rows. -/
theorem PaymentFresh.earlier (h : PaymentFresh payment db') (hseen : PaymentSeen payment db)
    (hothers : Others held db db') :
    PaymentFresh payment db ∧ db'.paymentRows payment.id = db.paymentRows payment.id := by
  obtain ⟨row, hrow, -, hversion⟩ := hseen
  obtain ⟨row', hrow', -, hstep⟩ := hothers.1.payments _ row hrow
  obtain ⟨row'', hrow'', hfresh⟩ := h
  obtain rfl := Option.some.inj (hrow'.symm.trans hrow'')
  rcases hstep with ⟨hv, hrows⟩ | ⟨hv, -⟩
  · exact ⟨⟨row, hrow, hv.symm.trans hfresh⟩, hrows⟩
  · omega

/-- An invoice that is still at the version that was read was so all along, and no more of it
is settled. -/
theorem InvoiceFresh.earlier (h : InvoiceFresh inv db') (hseen : InvoiceSeen inv db)
    (hothers : Others held db db') :
    InvoiceFresh inv db ∧
      db'.totalAllocatedForInvoice inv.id ≤ db.totalAllocatedForInvoice inv.id ∧
      db'.getAppliedTotalForInvoice inv.id ≤ db.getAppliedTotalForInvoice inv.id := by
  obtain ⟨row, hrow, -, hversion⟩ := hseen
  obtain ⟨row', hrow', -, hstep⟩ := hothers.1.invoices _ row hrow
  obtain ⟨row'', hrow'', hfresh⟩ := h
  obtain rfl := Option.some.inj (hrow'.symm.trans hrow'')
  rcases hstep with ⟨hv, hle⟩ | ⟨hv, -⟩
  · exact ⟨⟨row, hrow, hv.symm.trans hfresh⟩, hle⟩
  · omega

/-- What is held stays at its version. -/
theorem PaymentFresh.later (h : PaymentFresh payment db) (hheld : held (.payment payment.id))
    (hothers : Others held db db') : PaymentFresh payment db' := by
  obtain ⟨row, hrow, hfresh⟩ := h
  obtain ⟨row', hrow', -, hstep⟩ := hothers.1.payments _ row hrow
  rcases hstep with ⟨hv, -⟩ | ⟨-, hfree⟩
  · exact ⟨row', hrow', hv.trans hfresh⟩
  · exact absurd hheld hfree

theorem invoice_version_later {row : Invoice} (hheld : held (.invoice i))
    (hrow : db.invoices.find? i = some row) (hothers : Others held db db') :
    ∃ row', db'.invoices.find? i = some row' ∧ row'.version = row.version := by
  obtain ⟨row', hrow', -, hstep⟩ := hothers.1.invoices _ row hrow
  rcases hstep with ⟨hv, -⟩ | ⟨-, hfree⟩
  · exact ⟨row', hrow', hv⟩
  · exact absurd hheld hfree

end Memory

/-- The checks before the writes, as far as they are still worth something: should the rows
be at the versions that were read, then the writes fit. -/
structure Ready (payment : BillingPayment) (loaded : List Invoice)
    (deleted : List (Id × Id × ℕ)) (rows : List NormalizedAllocation) (db : Db) : Prop where
  paid : PaymentSeen payment db
  seen : ∀ inv ∈ loaded, InvoiceSeen inv db
  funded : PaymentFresh payment db →
    keptOf (db.paymentRows payment.id) deleted + (rows.map (·.allocatedAmount)).sum
      ≤ payment.amount
  room : ∀ row ∈ rows, ∃ inv, (loaded.find? fun inv => inv.id = row.invoiceId) = some inv ∧
    (PaymentFresh payment db → InvoiceFresh inv db →
      db.keptOn deleted row.invoiceId + db.getAppliedTotalForInvoice row.invoiceId
        + row.allocatedAmount ≤ inv.total)

/-- What the deletion of some of a payment's rows takes from an invoice. -/
def deletedOn (rows : List BillingPaymentAllocation) (deleted : List (Id × Id × ℕ)) (i : Id) :
    ℤ :=
  ((rows.filter fun a => a.invoiceId = i ∧ a.key ∈ deleted).map (·.allocatedAmount)).sum

theorem keptOn_add_deletedOn (db : Db) {deleted : List (Id × Id × ℕ)}
    (hdeleted : ∀ k ∈ deleted, k.1 = p) (i : Id) :
    db.keptOn deleted i + deletedOn (db.paymentRows p) deleted i
      = db.totalAllocatedForInvoice i := by
  have hrows : deletedOn (db.paymentRows p) deleted i
      = db.allocations.sumWhere (fun a => a.invoiceId = i ∧ a.key ∈ deleted)
        (·.allocatedAmount) := by
    rw [deletedOn, Db.paymentRows, List.filter_filter, Table.sumWhere]
    congr 2
    refine List.filter_congr fun a _ => ?_
    by_cases hkey : a.key ∈ deleted
    · have hp : a.paymentId = p := hdeleted _ hkey
      simp [hkey, hp]
    · simp [hkey]
  have hsplit : db.totalAllocatedForInvoice i
      = db.allocations.sumWhere (fun a => a.invoiceId = i ∧ a.key ∈ deleted)
          (·.allocatedAmount) + db.keptOn deleted i :=
    Table.sumWhere_split db.allocations fun a => a.key ∈ deleted
  omega

theorem eq_id_of_find? {loaded : List Invoice} {inv : Invoice}
    (h : (loaded.find? fun inv => inv.id = i) = some inv) : inv ∈ loaded ∧ inv.id = i :=
  ⟨List.mem_of_find?_eq_some h, by simpa using List.find?_some h⟩

/-- The checks stay worth what they were. -/
theorem Ready.later {payment : BillingPayment} {loaded : List Invoice}
    {deleted : List (Id × Id × ℕ)} {rows : List NormalizedAllocation} {db db' : Db}
    {held : SettlementLock → Prop} (hdeleted : ∀ k ∈ deleted, k.1 = payment.id)
    (h : Ready payment loaded deleted rows db) (hothers : Others held db db') :
    Ready payment loaded deleted rows db' := by
  refine ⟨h.paid.later hothers, fun inv hinv => (h.seen inv hinv).later hothers,
    fun hfresh => ?_, fun row hrow => ?_⟩
  · obtain ⟨hbefore, hsame⟩ := hfresh.earlier h.paid hothers
    rw [hsame]
    exact h.funded hbefore
  · obtain ⟨inv, hfind, hroom⟩ := h.room row hrow
    obtain ⟨hmem, hid⟩ := eq_id_of_find? hfind
    refine ⟨inv, hfind, fun hpay hinv => ?_⟩
    obtain ⟨hpayBefore, hsame⟩ := hpay.earlier h.paid hothers
    obtain ⟨hinvBefore, hallocated, hcredited⟩ :=
      hinv.earlier (h.seen inv hmem) hothers
    have hfits := hroom hpayBefore hinvBefore
    have hkept := keptOn_add_deletedOn db hdeleted row.invoiceId
    have hkept' := keptOn_add_deletedOn db' hdeleted row.invoiceId
    rw [hsame] at hkept'
    rw [hid] at hallocated hcredited
    omega

/-! ### Statements -/

section Statements

variable {held : SettlementLock → Prop} {db : Db} {w w' : Writes}
  {Q : Writes → Db → (SettlementLock → Prop) → Prop}

/-- The rows held, with one more. -/
abbrev holding (row : SettlementLock) (held : SettlementLock → Prop) : SettlementLock → Prop :=
  fun k => k = row ∨ held k

/-- An update ends with the row held, which was at the expected version when the lock was
taken. -/
theorem wp_updateById {ρ : Type} [Entity ρ] {table : Db → TableOf ρ} {row : SettlementLock}
    {id : Id} {expectedVersion : ℕ}
    (h : ∀ db₁ db₂, Others held db db₁ →
      ((table (w.apply db₁)).find? id).map Entity.version = some expectedVersion →
      Others (holding row held) db₁ db₂ → Q w' db₂ (holding row held)) :
    settlementDiscipline.wp Q
      (Interleaved.updateById table row id expectedVersion w w') db held := by
  refine Discipline.wp_bind.mpr (Discipline.wp_statement.mpr fun db₁ h₁ _ _ => ?_)
  refine Discipline.wp_bind.mpr (Discipline.wp_lockRow.mpr fun db₂ h₂ _ hversion => ?_)
  refine Discipline.wp_bind.mpr (Discipline.wp_statement.mpr fun db₃ h₃ _ _ => ?_)
  exact h db₁ db₃ h₁ (not_not.mp (raiseIf_eq_ok.mp hversion)) (h₂.trans h₃)

/-- The payment's projection is written at the version that was read first. -/
theorem wp_recomputePaymentProjection {payment : BillingPayment} (hw : w.payments = [])
    (h : ∀ u db', u.id = payment.id → payment.version < u.version → Others held db db' →
      PaymentFresh payment db' →
      Q { w with payments := [u] } db' (holding (.payment payment.id) held)) :
    settlementDiscipline.wp Q (Interleaved.recomputePaymentProjection payment w) db held := by
  refine Discipline.wp_bind.mpr (Discipline.wp_query.mpr fun db₁ h₁ => ?_)
  refine Discipline.wp_bind.mpr (Discipline.wp_check.mpr fun _ _ => ?_)
  refine wp_updateById fun db₂ db₃ h₂ hversion h₃ => ?_
  have hfresh : PaymentFresh payment db₂ := by
    rw [w.find?_payments_apply, Option.map_map, Option.map_eq_some_iff] at hversion
    obtain ⟨row, hrow, hversion⟩ := hversion
    have hsame : w.payment row = row := by simp [Writes.payment, hw]
    rw [Function.comp_apply, hsame] at hversion
    exact ⟨row, hrow, hversion⟩
  rw [hw, List.nil_append]
  refine h _ db₃ rfl (Nat.lt_succ_self _) ?_ (hfresh.later (.inl rfl) h₃)
  exact (h₁.trans h₂).trans (h₃.weaken fun k hk => .inr hk)

/-- An invoice that was updated: the row is below the new version, and at the version that was
read first if it was loaded before. -/
structure InvoiceUpdated (loaded : List Invoice) (u : InvoiceRewrite) (db : Db) : Prop where
  behind : ∃ row, db.invoices.find? u.id = some row ∧ row.version < u.version
  fresh : ∀ inv, (loaded.find? fun inv => inv.id = u.id) = some inv → InvoiceFresh inv db

theorem InvoiceUpdated.later {loaded : List Invoice} {u : InvoiceRewrite} {db' : Db}
    (h : InvoiceUpdated loaded u db) (hheld : held (.invoice u.id))
    (hothers : Others held db db') : InvoiceUpdated loaded u db' := by
  obtain ⟨row, hrow, hbehind⟩ := h.behind
  obtain ⟨row', hrow', hversion⟩ := invoice_version_later hheld hrow hothers
  refine ⟨⟨row', hrow', hversion.trans_lt hbehind⟩, fun inv hinv => ?_⟩
  obtain ⟨row₀, hrow₀, hfresh⟩ := h.fresh inv hinv
  have hid := (eq_id_of_find? hinv).2
  rw [hid, hrow] at hrow₀
  obtain rfl := Option.some.inj hrow₀
  exact ⟨row', hid ▸ hrow', hversion.trans hfresh⟩

/-- An invoice's projection is written at the version that was read first. -/
theorem wp_recomputeInvoiceProjection {today : Day} {loaded : List Invoice}
    (hw : ∀ u ∈ w.invoices, ¬ u.id = i)
    (h : ∀ u db', u.id = i → Others held db db' → InvoiceUpdated loaded u db' →
      Q { w with invoices := w.invoices ++ [u] } db' (holding (.invoice i) held)) :
    settlementDiscipline.wp Q (Interleaved.recomputeInvoiceProjection today loaded w i) db
      held := by
  refine Discipline.wp_bind.mpr (Discipline.wp_statement.mpr fun db₁ h₁ found _ => ?_)
  refine Discipline.wp_bind.mpr (Discipline.wp_query.mpr fun db₂ h₂ => ?_)
  refine Discipline.wp_bind.mpr (Discipline.wp_query.mpr fun db₃ h₃ => ?_)
  refine Discipline.wp_bind.mpr (Discipline.wp_query.mpr fun db₄ h₄ => ?_)
  refine wp_updateById fun db₅ db₆ h₅ hversion h₆ => ?_
  rw [w.find?_invoices_apply, Option.map_map, Option.map_eq_some_iff] at hversion
  obtain ⟨row, hrow, hversion⟩ := hversion
  have hid : row.id = i := (Table.find?_eq_some_iff.mp hrow).2
  -- Nothing was written to the row before.
  have hsame : w.invoice row = row := by
    rcases w.invoice_cases row with ⟨u, hu, huid, -⟩ | ⟨-, heq⟩
    · exact absurd (huid.trans hid) (hw u hu)
    · exact heq
  rw [Function.comp_apply, hsame] at hversion
  refine h _ db₆ rfl ?_ ?_
  · exact (((h₁.trans h₂).trans h₃).trans h₄).trans (h₅.trans (h₆.weaken fun k hk => .inr hk))
  · refine InvoiceUpdated.later ⟨⟨row, hrow, ?_⟩, fun inv hinv => ?_⟩ (.inl rfl) h₆
    · exact Nat.lt_succ_of_le hversion.le
    · have hloaded : (loaded.find? fun inv => inv.id = i) = some inv := hinv
      rw [hloaded] at hversion
      exact ⟨row, (eq_id_of_find? hinv).2 ▸ hrow, hversion⟩

end Statements

/-! ### The writes of a call -/

/-- What an allocation row says, without its payment and revision. -/
def BillingPaymentAllocation.entry (a : BillingPaymentAllocation) : NormalizedAllocation :=
  ⟨a.invoiceId, a.allocatedAmount, a.notes⟩

theorem sum_filter_eq_amountOn (inserted : List BillingPaymentAllocation) (i : Id) :
    ((inserted.filter fun a => a.invoiceId = i).map (·.allocatedAmount)).sum
      = amountOn (inserted.map BillingPaymentAllocation.entry) i := by
  rw [amountOn, List.filter_map, List.map_map]
  rfl

section Loops

variable {held : SettlementLock → Prop} {db : Db}
  {Q : Writes → Db → (SettlementLock → Prop) → Prop}

/-- The loop that creates one revision per entry. -/
theorem wp_insertAllocations {paymentId : Id} {rows : List NormalizedAllocation} {w : Writes}
    (hw : w.inserted = []) (hinv : SettlementInv db)
    (h : ∀ inserted db' held', inserted.map BillingPaymentAllocation.entry = rows →
      (∀ a ∈ inserted, a.paymentId = paymentId) → Others held db db' →
      (∀ k, held k → held' k) → Q { w with inserted := inserted } db' held') :
    settlementDiscipline.wp Q
      (Txn.forEach (Interleaved.insertAllocation paymentId) rows w) db held := by
  let I : List NormalizedAllocation → Writes → Db → (SettlementLock → Prop) → Prop :=
    fun rest w' db' held' => ∃ inserted, w' = { w with inserted := inserted } ∧
      inserted.map BillingPaymentAllocation.entry ++ rest = rows ∧
      (∀ a ∈ inserted, a.paymentId = paymentId) ∧ Others held db db' ∧
      ∀ k, held k → held' k
  refine Discipline.wp_mono (Q := I []) ?_ (Discipline.wp_forEach ?_ ?_)
  · rintro w' db' held' ⟨inserted, rfl, hrows, hpayment, hothers, hsub⟩
    exact h inserted db' held' (by simpa using hrows) hpayment hothers hsub
  · rintro row rest w' db' held' ⟨inserted, rfl, hrows, hpayment, hothers, hsub⟩
    refine Discipline.wp_bind.mpr (Discipline.wp_query.mpr fun db₁ h₁ => ?_)
    refine Discipline.wp_bind.mpr (Discipline.wp_lockRow.mpr fun db₂ h₂ _ _ => ?_)
    refine ⟨_, rfl, ?_, ?_, ?_, fun k hk => .inr (hsub k hk)⟩
    · rw [List.map_append, List.append_assoc]
      exact hrows
    · intro a ha
      rcases List.mem_append.mp ha with ha | ha
      · exact hpayment a ha
      · rw [List.mem_singleton.mp ha]
    · refine (hothers.trans (h₁.weaken hsub)).trans (h₂.weaken ?_)
      exact fun k hk => .inr (hsub k hk)
  · refine ⟨[], ?_, rfl, by simp, ⟨Evolves.refl _ _, hinv⟩, fun k hk => hk⟩
    rw [← hw]

/-- The loop over the touched invoices leaves every one of them updated and held. -/
theorem wp_recomputeInvoiceProjections {today : Day} {loaded : List Invoice}
    {touched : List Id} (hnd : touched.Nodup) {w : Writes} (hw : w.invoices = [])
    (hinv : SettlementInv db)
    (h : ∀ us db' held', us.map InvoiceRewrite.id = touched →
      (∀ u ∈ us, held' (.invoice u.id) ∧ InvoiceUpdated loaded u db') →
      Others held db db' → (∀ k, held k → held' k) →
      Q { w with invoices := us } db' held') :
    settlementDiscipline.wp Q
      (Txn.forEach (Interleaved.recomputeInvoiceProjection today loaded) touched w) db
      held := by
  let I : List Id → Writes → Db → (SettlementLock → Prop) → Prop :=
    fun rest w' db' held' => ∃ us, w' = { w with invoices := us } ∧
      us.map InvoiceRewrite.id ++ rest = touched ∧
      (∀ u ∈ us, held' (.invoice u.id) ∧ InvoiceUpdated loaded u db') ∧
      Others held db db' ∧ ∀ k, held k → held' k
  refine Discipline.wp_mono (Q := I []) ?_ (Discipline.wp_forEach ?_ ?_)
  · rintro w' db' held' ⟨us, rfl, hids, hupdated, hothers, hsub⟩
    exact h us db' held' (by simpa using hids) hupdated hothers hsub
  · rintro i rest w' db' held' ⟨us, rfl, hids, hupdated, hothers, hsub⟩
    have hnew : ∀ u ∈ us, ¬ u.id = i := by
      intro u hu hid
      rw [← hids, List.nodup_append] at hnd
      exact hnd.2.2 u.id (List.mem_map_of_mem hu) i List.mem_cons_self hid
    refine wp_recomputeInvoiceProjection hnew fun u db₁ hid h₁ hu => ?_
    refine ⟨us ++ [u], rfl, ?_, ?_, hothers.trans (h₁.weaken hsub),
      fun k hk => .inr (hsub k hk)⟩
    · rw [List.map_append, List.append_assoc, List.map_singleton, hid]
      exact hids
    · intro u' hu'
      rcases List.mem_append.mp hu' with hold | hlast
      · obtain ⟨hheld, hbefore⟩ := hupdated u' hold
        exact ⟨.inr hheld, hbefore.later hheld h₁⟩
      · rw [List.mem_singleton.mp hlast]
        exact ⟨.inl (by rw [hid]), hu⟩
  · refine ⟨[], ?_, rfl, by simp, ⟨Evolves.refl _ _, hinv⟩, fun k hk => hk⟩
    rw [← hw]

end Loops

section Calls

variable {held : SettlementLock → Prop} {db : Db} {payment : BillingPayment}
  {loaded : List Invoice} {deleted : List (Id × Id × ℕ)} {rows : List NormalizedAllocation}

/-- The writes of an allocation call may be committed, once the payment and the touched
invoices are updated. -/
theorem committable_of_ready {inserted : List BillingPaymentAllocation} {u : PaymentRewrite}
    {us : List InvoiceRewrite} (hinv : SettlementInv db)
    (hdeleted : ∀ k ∈ deleted, k.1 = payment.id)
    (hpos : ∀ row ∈ rows, 0 < row.allocatedAmount) (hnd : (rows.map (·.invoiceId)).Nodup)
    (hready : Ready payment loaded deleted rows db)
    (hrows : inserted.map BillingPaymentAllocation.entry = rows)
    (hpayment : ∀ a ∈ inserted, a.paymentId = payment.id)
    (huid : u.id = payment.id) (hu : payment.version < u.version)
    (hfresh : PaymentFresh payment db) (hheld : held (.payment payment.id))
    (htouched : ∀ row ∈ rows, row.invoiceId ∈ us.map InvoiceRewrite.id)
    (hus : ∀ u ∈ us, held (.invoice u.id) ∧ InvoiceUpdated loaded u db) :
    Committable { deleted := deleted, inserted := inserted, payments := [u], invoices := us }
      db held := by
  have hinserted : ∀ a ∈ inserted, a.entry ∈ rows :=
    fun a ha => hrows ▸ List.mem_map_of_mem ha
  have hpositive : ∀ a ∈ inserted, 0 < a.allocatedAmount :=
    fun a ha => hpos a.entry (hinserted a ha)
  refine ⟨hpositive, ?_, ?_, ?_, by simp, ?_, ?_⟩
  · exact fun a ha => ⟨u, List.mem_singleton_self u, huid.trans (hpayment a ha).symm⟩
  · exact fun k hk => ⟨u, List.mem_singleton_self u, huid.trans (hdeleted k hk).symm⟩
  · intro a ha
    obtain ⟨v, hv, hid⟩ := List.mem_map.mp (htouched _ (hinserted a ha))
    exact ⟨v, hv, hid⟩
  · intro v hv
    obtain rfl := List.mem_singleton.mp hv
    rw [huid]
    refine ⟨hheld, fun row hrow => ?_⟩
    obtain ⟨row₁, hrow₁, hversion⟩ := hfresh
    obtain ⟨row₂, hrow₂, hamount, -⟩ := hready.paid
    obtain rfl := Option.some.inj (hrow.symm.trans hrow₁)
    obtain rfl := Option.some.inj (hrow.symm.trans hrow₂)
    refine ⟨hversion.trans_lt hu, ?_⟩
    have hall : (inserted.filter fun a => a.paymentId = payment.id) = inserted :=
      List.filter_eq_self.mpr fun a ha => by simp [hpayment a ha]
    have hsum : (inserted.map (·.allocatedAmount)).sum
        = (rows.map (·.allocatedAmount)).sum := by
      rw [← hrows, List.map_map]
      rfl
    have hafter := Writes.totalLatestAllocatedForPayment_apply_le
      { deleted := deleted, inserted := inserted, payments := [v], invoices := us } db
      hpositive payment.id
    have hfunded := hready.funded ⟨_, hrow₁, hversion⟩
    simp only [hall, hsum] at hafter
    omega
  · intro v hv
    obtain ⟨hlocked, hupdated⟩ := hus v hv
    refine ⟨hlocked, fun row hrow => ?_⟩
    obtain ⟨row₁, hrow₁, hbehind⟩ := hupdated.behind
    obtain rfl := Option.some.inj (hrow.symm.trans hrow₁)
    refine ⟨hbehind, ?_⟩
    have hallocated := Writes.totalAllocatedForInvoice_apply_le
      { deleted := deleted, inserted := inserted, payments := [u], invoices := us } db
      hpositive v.id
    have hcredited := Writes.getAppliedTotalForInvoice_apply
      { deleted := deleted, inserted := inserted, payments := [u], invoices := us } db v.id
    simp only [sum_filter_eq_amountOn, hrows, List.filter_nil, List.map_nil, List.sum_nil,
      add_zero] at hallocated hcredited
    rw [hcredited]
    -- Either the call puts something on the invoice, or it only takes from it.
    by_cases hmem : v.id ∈ rows.map (·.invoiceId)
    · obtain ⟨r, hr, hid⟩ := List.mem_map.mp hmem
      obtain ⟨inv, hfind, hroom⟩ := hready.room r hr
      rw [hid] at hfind hroom
      obtain ⟨hloaded, hinvid⟩ := eq_id_of_find? hfind
      obtain ⟨row₂, hrow₂, htotal, -⟩ := hready.seen inv hloaded
      rw [hinvid] at hrow₂
      obtain rfl := Option.some.inj (hrow.symm.trans hrow₂)
      have hfits := hroom hfresh (hupdated.fresh inv hfind)
      have hamount := amountOn_eq_of_mem hnd hr
      rw [hid] at hamount
      omega
    · have hnone := amountOn_eq_zero hmem
      have hkept := keptOn_le hinv.positive deleted v.id
      have hbound := hinv.invoices v.id row hrow
      omega

/-- A call whose checks are worth something may write. -/
theorem wp_writeAllocations {today : Day} {touched : List Id} (hinv : SettlementInv db)
    (hdeleted : ∀ k ∈ deleted, k.1 = payment.id)
    (hpos : ∀ row ∈ rows, 0 < row.allocatedAmount) (hnd : (rows.map (·.invoiceId)).Nodup)
    (hready : Ready payment loaded deleted rows db) (htouched : touched.Nodup)
    (hsub : ∀ row ∈ rows, row.invoiceId ∈ touched) :
    settlementDiscipline.wp settlementDiscipline.Commits
      (Interleaved.writeAllocations today payment loaded rows touched { deleted := deleted })
      db held := by
  refine Discipline.wp_bind.mpr (wp_insertAllocations rfl hinv ?_)
  intro inserted db₁ held₁ hrows hpayment h₁ hsub₁
  refine Discipline.wp_bind.mpr (wp_recomputePaymentProjection rfl ?_)
  intro u db₂ huid hu h₂ hfresh
  refine Discipline.wp_bind.mpr (wp_recomputeInvoiceProjections htouched rfl h₂.2 ?_)
  intro us db₃ held₃ hids hus h₃ hsub₃
  have hheld : held₃ (.payment payment.id) := hsub₃ _ (.inl rfl)
  have hready₃ : Ready payment loaded deleted rows db₃ :=
    ((hready.later hdeleted h₁).later hdeleted h₂).later hdeleted h₃
  refine commits_of_rewrites h₃.2 (committable_of_ready h₃.2 hdeleted hpos hnd hready₃ hrows
    hpayment huid hu (hfresh.later (.inl rfl) h₃) hheld ?_ hus)
  exact fun row hrow => hids ▸ hsub row hrow

end Calls

end SwCouriers
