import SwCouriers.DeliveryAttempts
import SwCouriers.Lib.Runs

/-!
# Attempt Schedules

What the configuration of the attempts may hold. The readers of a list share one loop, so there
is one account of what they accept: every entry reads as an attempt from one on with a fee that
is not negative, and no attempt occurs twice. The strict reader asks for the attempts from one to
the maximum in any order, and the repairing one takes any that are not empty and numbers them
again in their order. Either way what is stored is numbered from one without a gap.

## Main results

* `coerceEntries_eq_ok`, `validateStrictAttemptFees_eq_ok`, `compactAttemptFees_eq_ok`: what the
  readers accept, and what they return.
* `compactAttemptFees_idempotent`: a compacted list is compacted to itself.
* `wellFormed_step`: every request keeps the two schedules.
* `attempt_fees_stay_contiguous`: the schedules of every reachable configuration, the full
  updates that are accepted, and what compaction does.
-/

namespace SwCouriers.DeliveryAttempts

open Checked

/-! ### Values -/

/-- The number that `int` takes from a value. -/
def RawValue.int? : RawValue → Option ℤ
  | .int n => some n
  | .decimal (.finite q) => some (q.num.tdiv q.den)
  | .text s => intOfText s
  | _ => .none

variable {value : RawValue} {env : Env} {fieldName : String} {pence maxAttempts : ℤ}
  {read fees : List AttemptFee}

theorem intOf_eq_ok {caught : ServiceError} {n : ℤ} :
    intOf caught value = .ok n ↔ value.int? = some n := by
  cases value with
  | decimal d => cases d <;> simp [intOf, RawValue.int?]
  | text s => exact orRaise_eq_ok
  | _ => simp [intOf, RawValue.int?]

/-- The value is a number, not negative, of so many whole pence, and these have no more digits
than a decimal may have. -/
def RawValue.Pence (value : RawValue) (pence : ℤ) : Prop :=
  ∃ q, decimalOf value = some (.finite q) ∧ 0 ≤ q ∧ money q < 10 ^ 28 ∧ money q = pence

theorem coerceFee_eq_ok : coerceFee env value fieldName = .ok pence ↔ value.Pence pence := by
  constructor
  · intro h
    obtain ⟨fee, hfee, h⟩ := bind_eq_ok.mp h
    cases fee with
    | finite q =>
        obtain ⟨⟨⟩, hnonneg, h⟩ := bind_eq_ok.mp h
        obtain ⟨⟨⟩, hdigits, h⟩ := bind_eq_ok.mp h
        exact ⟨q, orRaise_eq_ok.mp hfee, not_lt.mp (raiseIf_eq_ok.mp hnonneg),
          not_le.mp (raiseIf_eq_ok.mp hdigits), pure_eq_ok.mp h⟩
    | infinite negative => cases negative <;> exact absurd h (by simp)
    | nan => exact absurd h (by simp)
  · rintro ⟨q, hfee, hnonneg, hdigits, rfl⟩
    refine bind_eq_ok.mpr ⟨.finite q, orRaise_eq_ok.mpr hfee, ?_⟩
    refine bind_eq_ok.mpr ⟨⟨⟩, raiseIf_eq_ok.mpr (not_lt.mpr hnonneg), ?_⟩
    exact bind_eq_ok.mpr ⟨⟨⟩, raiseIf_eq_ok.mpr (not_le.mpr hdigits), rfl⟩

theorem RawValue.Pence.nonneg (h : value.Pence pence) : 0 ≤ pence := by
  obtain ⟨q, -, hq, -, rfl⟩ := h
  exact Decimal.quantize_nonneg hq

theorem RawValue.Pence.lt (h : value.Pence pence) : pence < 10 ^ 28 := by
  obtain ⟨q, -, -, hdigits, rfl⟩ := h
  exact hdigits

/-- A written amount reads as itself. -/
theorem pence_render (hnonneg : 0 ≤ pence) (hlt : pence < 10 ^ 28) :
    (RawValue.text (Decimal.render pence)).Pence pence := by
  refine ⟨pounds pence, ?_, ?_, ?_, money_stored pence⟩
  · simp [decimalOf, decimalOfText, pounds]
  · exact div_nonneg (Int.cast_nonneg hnonneg) (by norm_num)
  · rw [money_stored]
    exact hlt

/-! ### Entries -/

/-- The entry reads as the stored one: an attempt from one on, and a fee. -/
def RawEntry.Reads (entry : RawEntry) (a : AttemptFee) : Prop :=
  entry.attempt.int? = some a.attempt ∧ 1 ≤ a.attempt ∧
    ∃ pence, entry.fee.Pence pence ∧ a.fee = Decimal.render pence

/-- **What a round of the loop accepts**: an entry that reads as one with a new attempt. -/
theorem coerceEntry_eq_ok {idx : ℕ} {seenAttempts : List ℤ} {entry : RawEntry} {a : AttemptFee} :
    coerceEntry env fieldName idx seenAttempts entry = .ok a ↔
      entry.Reads a ∧ a.attempt ∉ seenAttempts := by
  constructor
  · intro h
    replace h := ok_of_check h
    obtain ⟨attempt, hattempt, h⟩ := bind_eq_ok.mp h
    obtain ⟨⟨⟩, hone, h⟩ := bind_eq_ok.mp h
    obtain ⟨⟨⟩, hnew, h⟩ := bind_eq_ok.mp h
    obtain ⟨pence, hfee, h⟩ := bind_eq_ok.mp h
    obtain rfl := pure_eq_ok.mp h
    exact ⟨⟨intOf_eq_ok.mp hattempt, not_lt.mp (raiseIf_eq_ok.mp hone), pence,
      coerceFee_eq_ok.mp hfee, rfl⟩, raiseIf_eq_ok.mp hnew⟩
  · rintro ⟨⟨hattempt, hone, pence, hfee, hrender⟩, hnew⟩
    -- An entry without a value under one of its keys reads as nothing.
    have hboth : ¬ (entry.attempt = .none ∨ entry.fee = .none) := by
      rintro (hnone | hnone)
      · rw [hnone] at hattempt
        exact Option.some_ne_none _ hattempt.symm
      · obtain ⟨q, hq, -⟩ := hfee
        rw [hnone] at hq
        exact Option.some_ne_none _ hq.symm
    refine bind_eq_ok.mpr ⟨⟨⟩, raiseIf_eq_ok.mpr hboth, ?_⟩
    refine bind_eq_ok.mpr ⟨a.attempt, intOf_eq_ok.mpr hattempt, ?_⟩
    refine bind_eq_ok.mpr ⟨⟨⟩, raiseIf_eq_ok.mpr (not_lt.mpr hone), ?_⟩
    refine bind_eq_ok.mpr ⟨⟨⟩, raiseIf_eq_ok.mpr hnew, ?_⟩
    refine bind_eq_ok.mpr ⟨pence, coerceFee_eq_ok.mpr hfee, ?_⟩
    rw [← hrender]
    rfl

variable {entries : List RawEntry}

theorem coerceEntriesFrom_eq_ok {idx : ℕ} {seenAttempts : List ℤ} :
    coerceEntriesFrom env fieldName idx seenAttempts entries = .ok read ↔
      List.Forall₂ RawEntry.Reads entries read ∧ (read.map (·.attempt)).Nodup ∧
        ∀ a ∈ read, a.attempt ∉ seenAttempts := by
  induction entries generalizing idx seenAttempts read with
  | nil =>
      rw [coerceEntriesFrom, List.forall₂_nil_left_iff]
      constructor
      · intro h
        obtain rfl := Except.ok.inj h
        exact ⟨rfl, List.nodup_nil, fun a ha => absurd ha List.not_mem_nil⟩
      · rintro ⟨rfl, -⟩
        rfl
  | cons entry entries ih =>
      rw [coerceEntriesFrom, List.forall₂_cons_left_iff, bind_eq_ok]
      constructor
      · rintro ⟨a, ha, h⟩
        obtain ⟨rest, hrest, h⟩ := bind_eq_ok.mp h
        obtain rfl := pure_eq_ok.mp h
        obtain ⟨hreads, hnew⟩ := coerceEntry_eq_ok.mp ha
        obtain ⟨hall, hnd, hfresh⟩ := ih.mp hrest
        refine ⟨⟨a, rest, hreads, hall, rfl⟩, List.nodup_cons.mpr ⟨?_, hnd⟩,
          List.forall_mem_cons.mpr ⟨hnew, fun b hb hseen =>
            hfresh b hb (List.mem_cons_of_mem _ hseen)⟩⟩
        intro hmem
        obtain ⟨b, hb, heq⟩ := List.mem_map.mp hmem
        exact hfresh b hb (heq ▸ List.mem_cons_self)
      · rintro ⟨⟨a, rest, hreads, hall, rfl⟩, hnd, hfresh⟩
        obtain ⟨hnotin, hnd⟩ := List.nodup_cons.mp hnd
        obtain ⟨hnew, hfresh⟩ := List.forall_mem_cons.mp hfresh
        refine ⟨a, coerceEntry_eq_ok.mpr ⟨hreads, hnew⟩, ?_⟩
        refine bind_eq_ok.mpr ⟨rest, ih.mpr ⟨hall, hnd, fun b hb hseen => ?_⟩, rfl⟩
        rcases List.mem_cons.mp hseen with heq | hseen
        · exact hnotin (List.mem_map.mpr ⟨b, hb, heq⟩)
        · exact hfresh b hb hseen

/-- **What the loop accepts**: entries that all read, with different attempts. -/
theorem coerceEntries_eq_ok :
    coerceEntries env entries fieldName = .ok read ↔
      List.Forall₂ RawEntry.Reads entries read ∧ (read.map (·.attempt)).Nodup := by
  rw [coerceEntries, coerceEntriesFrom_eq_ok]
  exact ⟨fun h => ⟨h.1, h.2.1⟩, fun h => ⟨h.1, h.2, fun _ _ => List.not_mem_nil⟩⟩

/-! ### Schedules -/

theorem pairwise_oneTo (maxAttempts : ℤ) : (oneTo maxAttempts).Pairwise (· < ·) :=
  (List.pairwise_lt_range).map _ fun i j hij => by omega

theorem length_oneTo (h : 1 ≤ maxAttempts) : ((oneTo maxAttempts).length : ℤ) = maxAttempts := by
  rw [oneTo, List.length_map, List.length_range]
  omega

/-- A list of the attempts from one to the maximum, in order, each with a fee in whole pence. -/
structure IsSchedule (maxAttempts : ℤ) (fees : List AttemptFee) : Prop where
  one_le : 1 ≤ maxAttempts
  attempts : fees.map (·.attempt) = oneTo maxAttempts
  pence : ∀ a ∈ fees, ∃ p : ℕ, a.fee = Decimal.render p

theorem IsSchedule.length (h : IsSchedule maxAttempts fees) : (fees.length : ℤ) = maxAttempts := by
  rw [← length_oneTo h.one_le, ← h.attempts, List.length_map]

/-- Entries that are read have fees in whole pence. -/
theorem pence_of_reads (h : List.Forall₂ RawEntry.Reads entries read) :
    ∀ a ∈ read, ∃ pence : ℤ, 0 ≤ pence ∧ pence < 10 ^ 28 ∧ a.fee = Decimal.render pence := by
  intro a ha
  obtain ⟨entry, -, -, -, pence, hpence, hfee⟩ := exists_of_forall₂_right h ha
  exact ⟨pence, hpence.nonneg, hpence.lt, hfee⟩

theorem map_attempt_sorted (read : List AttemptFee) :
    (sortedByAttempt read).map (·.attempt)
      = (read.map (·.attempt)).insertionSort (· ≤ ·) :=
  List.map_insertionSort _ _ _ _ fun _ _ _ _ => Iff.rfl

/-- Sorting gives the attempts from one on exactly if these are the attempts, in any order. -/
theorem insertionSort_eq_oneTo_iff {attempts : List ℤ} :
    attempts.insertionSort (· ≤ ·) = oneTo maxAttempts ↔ attempts.Perm (oneTo maxAttempts) := by
  constructor
  · intro h
    rw [← h]
    exact (List.perm_insertionSort _ _).symm
  · intro h
    have hsorted := List.pairwise_insertionSort (fun a b : ℤ => a ≤ b) attempts
    have hrange : (oneTo maxAttempts).Pairwise fun a b => a ≤ b :=
      (pairwise_oneTo maxAttempts).imp fun hlt => hlt.le
    exact ((List.perm_insertionSort _ _).trans h).eq_of_pairwise
      (fun _ _ _ _ => le_antisymm) hsorted hrange

/-- **What the strict reader accepts, and what it returns.** -/
theorem validateStrictAttemptFees_eq_ok :
    validateStrictAttemptFees env entries maxAttempts fieldName = .ok fees ↔
      1 ≤ maxAttempts ∧ ∃ read, List.Forall₂ RawEntry.Reads entries read ∧
        (read.map (·.attempt)).Perm (oneTo maxAttempts) ∧ fees = sortedByAttempt read := by
  constructor
  · intro h
    obtain ⟨⟨⟩, hone, h⟩ := bind_eq_ok.mp h
    obtain ⟨read, hread, h⟩ := bind_eq_ok.mp h
    replace h := ok_of_check h
    obtain ⟨hsorted, h⟩ := raiseIf_bind_eq_ok.mp h
    exact ⟨not_lt.mp (raiseIf_eq_ok.mp hone), read, (coerceEntries_eq_ok.mp hread).1,
      insertionSort_eq_oneTo_iff.mp (not_not.mp hsorted),
      (pure_eq_ok.mp h).symm⟩
  · rintro ⟨hone, read, hreads, hperm, rfl⟩
    have hnd : (read.map (·.attempt)).Nodup :=
      hperm.nodup_iff.mpr ((pairwise_oneTo maxAttempts).imp fun hlt => hlt.ne)
    have hlength : (read.length : ℤ) = maxAttempts := by
      rw [← length_oneTo hone, ← hperm.length_eq, List.length_map]
    refine bind_eq_ok.mpr ⟨⟨⟩, raiseIf_eq_ok.mpr (not_lt.mpr hone), ?_⟩
    refine bind_eq_ok.mpr ⟨read, coerceEntries_eq_ok.mpr ⟨hreads, hnd⟩, ?_⟩
    refine bind_eq_ok.mpr ⟨⟨⟩, raiseIf_eq_ok.mpr (not_not.mpr hlength), ?_⟩
    exact bind_eq_ok.mpr ⟨⟨⟩, raiseIf_eq_ok.mpr
      (not_not.mpr (insertionSort_eq_oneTo_iff.mpr hperm)), rfl⟩

/-- What the strict reader returns is a schedule. -/
theorem isSchedule_of_strict
    (h : validateStrictAttemptFees env entries maxAttempts fieldName = .ok fees) :
    IsSchedule maxAttempts fees := by
  obtain ⟨hone, read, hreads, hperm, rfl⟩ := validateStrictAttemptFees_eq_ok.mp h
  refine ⟨hone, ?_, fun a ha => ?_⟩
  · rw [map_attempt_sorted, insertionSort_eq_oneTo_iff.mpr hperm]
  · obtain ⟨pence, hnonneg, -, hfee⟩ :=
      pence_of_reads hreads a ((List.mem_insertionSort _).mp ha)
    obtain ⟨p, rfl⟩ := Int.eq_ofNat_of_zero_le hnonneg
    exact ⟨p, hfee⟩

/-! ### Compaction -/

@[simp] theorem length_renumbered (entries : List AttemptFee) :
    (renumbered entries).length = entries.length := List.length_mapIdx

theorem map_attempt_renumbered (entries : List AttemptFee) :
    (renumbered entries).map (·.attempt) = oneTo entries.length := by
  refine List.ext_getElem (by simp [oneTo]) fun i h _ => ?_
  simp [renumbered, oneTo]

theorem map_fee_renumbered (entries : List AttemptFee) :
    (renumbered entries).map (·.fee) = entries.map (·.fee) := by
  refine List.ext_getElem (by simp) fun i h _ => ?_
  simp [renumbered]

/-- Entries that are numbered from one are left as they are. -/
theorem renumbered_of_oneTo {entries : List AttemptFee}
    (h : entries.map (·.attempt) = oneTo maxAttempts) : renumbered entries = entries := by
  refine List.ext_getElem? fun i => ?_
  have hi := congrArg (fun l : List ℤ => l[i]?) h
  simp only [oneTo, List.getElem?_map] at hi
  simp only [renumbered, List.getElem?_mapIdx]
  cases hentry : entries[i]? with
  | none => rfl
  | some a =>
      rw [hentry] at hi
      obtain ⟨j, hj, hattempt⟩ := Option.map_eq_some_iff.mp hi.symm
      obtain ⟨hlt, rfl⟩ := List.getElem?_eq_some_iff.mp hj
      rw [List.getElem_range] at hattempt
      rw [Option.map_some, hattempt]

/-- **What compaction accepts, and what it returns.** -/
theorem compactAttemptFees_eq_ok :
    compactAttemptFees env entries fieldName = .ok fees ↔
      entries ≠ [] ∧ ∃ read, List.Forall₂ RawEntry.Reads entries read ∧
        (read.map (·.attempt)).Nodup ∧ fees = renumbered (sortedByAttempt read) := by
  constructor
  · intro h
    obtain ⟨read, hread, h⟩ := bind_eq_ok.mp h
    obtain ⟨⟨⟩, hne, h⟩ := bind_eq_ok.mp h
    obtain ⟨hreads, hnd⟩ := coerceEntries_eq_ok.mp hread
    refine ⟨?_, read, hreads, hnd, (pure_eq_ok.mp h).symm⟩
    rintro rfl
    exact raiseIf_eq_ok.mp hne (List.forall₂_nil_left_iff.mp hreads)
  · rintro ⟨hne, read, hreads, hnd, rfl⟩
    refine bind_eq_ok.mpr ⟨read, coerceEntries_eq_ok.mpr ⟨hreads, hnd⟩, ?_⟩
    refine bind_eq_ok.mpr ⟨⟨⟩, raiseIf_eq_ok.mpr ?_, rfl⟩
    rintro rfl
    exact hne (List.forall₂_nil_right_iff.mp hreads)

/-- The fees of a compacted list are fees that were read. -/
theorem mem_fees_of_mem_renumbered {a : AttemptFee} (ha : a ∈ renumbered (sortedByAttempt read)) :
    ∃ b ∈ read, b.fee = a.fee := by
  have hfee : a.fee ∈ (sortedByAttempt read).map (·.fee) := by
    rw [← map_fee_renumbered]
    exact List.mem_map_of_mem ha
  obtain ⟨b, hb, heq⟩ := List.mem_map.mp hfee
  exact ⟨b, (List.mem_insertionSort _).mp hb, heq⟩

/-- What compaction returns is a schedule. -/
theorem isSchedule_of_compact (h : compactAttemptFees env entries fieldName = .ok fees) :
    IsSchedule fees.length fees := by
  obtain ⟨hne, read, hreads, -, rfl⟩ := compactAttemptFees_eq_ok.mp h
  refine ⟨?_, ?_, fun a ha => ?_⟩
  · rw [length_renumbered, sortedByAttempt, List.length_insertionSort, ← hreads.length_eq]
    have hpos := List.length_pos_of_ne_nil hne
    omega
  · rw [map_attempt_renumbered, length_renumbered]
  · obtain ⟨b, hb, hfee⟩ := mem_fees_of_mem_renumbered ha
    obtain ⟨pence, hnonneg, -, hrender⟩ := pence_of_reads hreads b hb
    obtain ⟨p, rfl⟩ := Int.eq_ofNat_of_zero_le hnonneg
    exact ⟨p, hfee ▸ hrender⟩

/-- **Compaction is idempotent**: a compacted list, sent again, is compacted to itself. -/
theorem compactAttemptFees_idempotent (h : compactAttemptFees env entries fieldName = .ok fees)
    (fieldName' : String) :
    compactAttemptFees env (fees.map AttemptFee.entry) fieldName' = .ok fees := by
  have hschedule := isSchedule_of_compact h
  obtain ⟨-, read, hreads, -, hfees⟩ := compactAttemptFees_eq_ok.mp h
  have hone : ∀ a ∈ fees, 1 ≤ a.attempt := by
    intro a ha
    have hmem : a.attempt ∈ oneTo fees.length := by
      rw [← hschedule.attempts]
      exact List.mem_map_of_mem ha
    obtain ⟨i, -, heq⟩ := List.mem_map.mp hmem
    omega
  have hself : List.Forall₂ RawEntry.Reads (fees.map AttemptFee.entry) fees := by
    rw [List.forall₂_map_left_iff]
    refine List.forall₂_same.mpr fun a ha => ⟨rfl, hone a ha, ?_⟩
    obtain ⟨b, hb, hfee⟩ := mem_fees_of_mem_renumbered (hfees ▸ ha)
    obtain ⟨pence, hnonneg, hlt, hrender⟩ := pence_of_reads hreads b hb
    refine ⟨pence, ?_, hfee ▸ hrender⟩
    rw [AttemptFee.entry, ← hfee, hrender]
    exact pence_render hnonneg hlt
  have hsorted : sortedByAttempt fees = fees := by
    refine List.Pairwise.insertionSort_eq (List.pairwise_map.mp ?_)
    rw [hschedule.attempts]
    exact (pairwise_oneTo _).imp fun hlt => hlt.le
  refine compactAttemptFees_eq_ok.mpr ⟨?_, fees, hself, ?_, ?_⟩
  · intro hnil
    have hlength := hschedule.one_le
    rw [List.map_eq_nil_iff.mp hnil] at hlength
    exact absurd hlength (by decide)
  · rw [hschedule.attempts]
    exact (pairwise_oneTo _).imp fun hlt => hlt.ne
  · rw [hsorted, renumbered_of_oneTo hschedule.attempts]

/-! ### The configuration -/

/-- A column holds a schedule of so many attempts. -/
def HoldsSchedule (maxAttempts : ℤ) (fees : Option (List AttemptFee)) : Prop :=
  ∃ schedule, fees = some schedule ∧ IsSchedule maxAttempts schedule

/-- Both columns hold schedules of the attempts that are stored beside them. -/
def DeliveryAttemptConfig.WellFormed (config : DeliveryAttemptConfig) : Prop :=
  HoldsSchedule config.maxDeliveryAttempts config.deliveryAttemptFees ∧
    HoldsSchedule config.maxReturnAttempts config.returnAttemptFees

/-- Every configuration in the table is well formed. -/
def Db.WellFormed (db : Db) : Prop := ∀ config ∈ db.rows, config.WellFormed

variable {db : Db}

theorem mem_of_getSingleton {config : DeliveryAttemptConfig} (h : db.getSingleton = some config) :
    config ∈ db.rows :=
  List.mem_of_mem_head? h

theorem wellFormed_create {maxDelivery maxReturn : ℤ} {delivery return_ : List AttemptFee}
    (hdb : db.WellFormed) (hdelivery : IsSchedule maxDelivery delivery)
    (hreturn : IsSchedule maxReturn return_) :
    (db.create maxDelivery delivery maxReturn return_).WellFormed := by
  intro config hconfig
  rcases (Table.mem_insert_iff db.fresh_notMem).mp hconfig with hconfig | rfl
  · exact hdb config hconfig
  · exact ⟨⟨delivery, rfl, hdelivery⟩, return_, rfl, hreturn⟩

theorem updateById_eq_ok {db' : Db} {config : DeliveryAttemptConfig} {incoming : Incoming}
    {expectedVersion : Option ℕ} :
    db.updateById config incoming expectedVersion = .ok db' ↔
      (∀ expected ∈ expectedVersion, expected = config.version) ∧
        db.modify config.id incoming.apply (fun _ => rfl) = db' := by
  rw [Db.updateById, bind_eq_ok]
  have hcheck : ∀ w, checkEach (fun expected => raiseIf (config.version ≠ expected)
      (modifiedElsewhere "delivery_attempt_configs")) expectedVersion.toList = .ok w ↔
        ∀ expected ∈ expectedVersion, expected = config.version := by
    intro w
    rw [checkEach_eq_ok]
    simp only [Option.mem_toList, raiseIf_eq_ok, ne_eq, not_not]
    exact forall₂_congr fun _ _ => eq_comm
  constructor
  · rintro ⟨w, hw, h⟩
    exact ⟨(hcheck w).mp hw, pure_eq_ok.mp h⟩
  · rintro ⟨hversion, rfl⟩
    exact ⟨⟨⟩, (hcheck _).mpr hversion, rfl⟩

/-- A write to the configuration keeps the schedules when the written row has them. -/
theorem wellFormed_updateById {db' : Db} {config : DeliveryAttemptConfig} {incoming : Incoming}
    {expectedVersion : Option ℕ} (hdb : db.WellFormed) (hconfig : config ∈ db.rows)
    (happly : (incoming.apply config).WellFormed)
    (h : db.updateById config incoming expectedVersion = .ok db') : db'.WellFormed := by
  obtain ⟨-, rfl⟩ := updateById_eq_ok.mp h
  intro r hr
  obtain ⟨r₀, hr₀, rfl⟩ := (Table.mem_modify_iff _).mp hr
  split_ifs with hid
  · obtain rfl := Table.eq_of_key hr₀ hconfig hid
    exact happly
  · exact hdb r₀ hr₀

/-- The defaults are a schedule of three attempts. -/
theorem isSchedule_default : IsSchedule 3 (defaultFeeEntries 3) := by
  refine ⟨by decide, by decide, fun a ha => ⟨0, ?_⟩⟩
  obtain ⟨i, -, rfl⟩ := List.mem_map.mp ha
  have hzero : "0.00" = Decimal.render 0 := by decide +kernel
  exact hzero

/-- The full payload consists of two schedules. -/
theorem isSchedule_of_serialize {data : DeliveryAttemptConfigUpdate} {payload : FullPayload}
    (h : serializeFullPayload env data = .ok payload) :
    IsSchedule payload.maxDeliveryAttempts payload.deliveryAttemptFees ∧
      IsSchedule payload.maxReturnAttempts payload.returnAttemptFees := by
  obtain ⟨maxDelivery, -, h⟩ := bind_eq_ok.mp h
  obtain ⟨maxReturn, -, h⟩ := bind_eq_ok.mp h
  obtain ⟨delivery, hdelivery, h⟩ := bind_eq_ok.mp h
  obtain ⟨return_, hreturn, h⟩ := bind_eq_ok.mp h
  obtain rfl := pure_eq_ok.mp h
  exact ⟨isSchedule_of_strict hdelivery, isSchedule_of_strict hreturn⟩

/-- **What a patch writes for one kind of attempt is a schedule** again, or nothing. -/
theorem holdsSchedule_patchFees {feesName maxName : String} {stored : ℤ}
    {existing : Option (List AttemptFee)} {fees : Option (List RawEntry)} {maxAttempts : Option ℤ}
    {written : Option (List AttemptFee) × Option ℤ} (hstored : HoldsSchedule stored existing)
    (h : patchFees env feesName maxName existing fees maxAttempts = .ok written) :
    HoldsSchedule (written.2.getD stored) (written.1.or existing) := by
  cases fees with
  | some entries =>
      obtain ⟨compacted, hcompact, h⟩ := bind_eq_ok.mp h
      replace h := ok_of_check h
      obtain rfl := pure_eq_ok.mp h
      exact ⟨compacted, rfl, isSchedule_of_compact hcompact⟩
  | none =>
      obtain ⟨⟨⟩, hcheck, h⟩ := bind_eq_ok.mp h
      obtain rfl := pure_eq_ok.mp h
      obtain ⟨schedule, rfl, hschedule⟩ := hstored
      refine ⟨schedule, rfl, ?_⟩
      cases maxAttempts with
      | none => exact hschedule
      | some requested =>
          -- A number alone has to be the one that is stored.
          have hlength := not_not.mp (raiseIf_eq_ok.mp
            (checkEach_eq_ok.mp hcheck requested (List.mem_singleton_self requested)))
          rw [Option.getD_some, ← hlength, Option.getD_some, hschedule.length]
          exact hschedule

/-- **Every request keeps the two schedules.** -/
theorem wellFormed_step (request : AttemptRequest) (hdb : db.WellFormed) :
    (request.step env db).WellFormed := by
  unfold AttemptRequest.step
  cases hexec : request.exec env db with
  | error e => exact hdb
  | ok db' =>
      rw [settle_ok]
      cases request with
      | getConfig =>
          obtain rfl := Except.ok.inj hexec
          unfold getConfig
          split
          · exact hdb
          · exact wellFormed_create hdb isSchedule_default isSchedule_default
      | createConfig data =>
          have h := ok_of_check hexec
          obtain ⟨payload, hpayload, h⟩ := bind_eq_ok.mp h
          obtain rfl := pure_eq_ok.mp h
          obtain ⟨hdelivery, hreturn⟩ := isSchedule_of_serialize hpayload
          exact wellFormed_create hdb hdelivery hreturn
      | updateConfig data =>
          obtain ⟨payload, hpayload, h⟩ := bind_eq_ok.mp hexec
          obtain ⟨hdelivery, hreturn⟩ := isSchedule_of_serialize hpayload
          split at h
          · obtain rfl := pure_eq_ok.mp h
            exact wellFormed_create hdb hdelivery hreturn
          · rename_i config hconfig
            refine wellFormed_updateById hdb (mem_of_getSingleton hconfig) ?_ h
            exact ⟨⟨_, rfl, hdelivery⟩, _, rfl, hreturn⟩
      | patchConfig data =>
          obtain ⟨config, hconfig, h⟩ := bind_eq_ok.mp hexec
          have hmem := mem_of_getSingleton (orRaise_eq_ok.mp hconfig)
          replace h := ok_of_check h
          obtain ⟨delivery, hdelivery, h⟩ := bind_eq_ok.mp h
          obtain ⟨return_, hreturn, h⟩ := bind_eq_ok.mp h
          obtain ⟨hdeliveryHeld, hreturnHeld⟩ := hdb config hmem
          refine wellFormed_updateById hdb hmem ?_ h
          exact ⟨holdsSchedule_patchFees hdeliveryHeld hdelivery,
            holdsSchedule_patchFees hreturnHeld hreturn⟩
      | deleteConfig =>
          obtain ⟨config, -, h⟩ := bind_eq_ok.mp hexec
          obtain rfl := pure_eq_ok.mp h
          exact fun r hr => hdb r (Table.mem_deleteWhere_iff.mp hr).1

/-! ### Full updates -/

/-- The entries all read, and their attempts are those from one to the maximum, in any order. -/
def NumbersAll (maxAttempts : ℤ) (entries : List RawEntry) : Prop :=
  ∃ read, List.Forall₂ RawEntry.Reads entries read ∧
    (read.map (·.attempt)).Perm (oneTo maxAttempts)

/-- Both lists of a full update number all attempts up to their maximum, which is at least
one. -/
def DeliveryAttemptConfigUpdate.NumbersAll (data : DeliveryAttemptConfigUpdate) : Prop :=
  (∃ n, data.maxDeliveryAttempts = some n ∧ 1 ≤ n ∧
      DeliveryAttempts.NumbersAll n data.deliveryAttemptFees) ∧
    ∃ n, data.maxReturnAttempts = some n ∧ 1 ≤ n ∧
      DeliveryAttempts.NumbersAll n data.returnAttemptFees

theorem exists_strict_iff (env : Env) (fieldName : String) :
    (∃ fees, validateStrictAttemptFees env entries maxAttempts fieldName = .ok fees) ↔
      1 ≤ maxAttempts ∧ NumbersAll maxAttempts entries := by
  constructor
  · rintro ⟨fees, h⟩
    obtain ⟨hone, read, hreads, hperm, -⟩ := validateStrictAttemptFees_eq_ok.mp h
    exact ⟨hone, read, hreads, hperm⟩
  · rintro ⟨hone, read, hreads, hperm⟩
    exact ⟨_, validateStrictAttemptFees_eq_ok.mpr ⟨hone, read, hreads, hperm, rfl⟩⟩

theorem exists_serialize_iff (env : Env) {data : DeliveryAttemptConfigUpdate} :
    (∃ payload, serializeFullPayload env data = .ok payload) ↔ data.NumbersAll := by
  constructor
  · rintro ⟨payload, h⟩
    obtain ⟨maxDelivery, hmaxDelivery, h⟩ := bind_eq_ok.mp h
    obtain ⟨maxReturn, hmaxReturn, h⟩ := bind_eq_ok.mp h
    obtain ⟨delivery, hdelivery, h⟩ := bind_eq_ok.mp h
    obtain ⟨return_, hreturn, -⟩ := bind_eq_ok.mp h
    have hdelivery' := (exists_strict_iff env _).mp ⟨_, hdelivery⟩
    have hreturn' := (exists_strict_iff env _).mp ⟨_, hreturn⟩
    exact ⟨⟨maxDelivery, orRaise_eq_ok.mp hmaxDelivery, hdelivery'⟩,
      maxReturn, orRaise_eq_ok.mp hmaxReturn, hreturn'⟩
  · rintro ⟨⟨maxDelivery, hmaxDelivery, hdelivery⟩, maxReturn, hmaxReturn, hreturn⟩
    obtain ⟨delivery, hdelivery⟩ :=
      (exists_strict_iff env "delivery_attempt_fees").mpr hdelivery
    obtain ⟨return_, hreturn⟩ := (exists_strict_iff env "return_attempt_fees").mpr hreturn
    refine ⟨⟨maxDelivery, delivery, maxReturn, return_⟩, ?_⟩
    refine bind_eq_ok.mpr ⟨maxDelivery, orRaise_eq_ok.mpr hmaxDelivery, ?_⟩
    refine bind_eq_ok.mpr ⟨maxReturn, orRaise_eq_ok.mpr hmaxReturn, ?_⟩
    exact bind_eq_ok.mpr ⟨delivery, hdelivery, bind_eq_ok.mpr ⟨return_, hreturn, rfl⟩⟩

/-- **Which full updates are accepted**: those that number all attempts, and know the version of
the configuration if they name one. -/
theorem updateConfig_accepted_iff {data : DeliveryAttemptConfigUpdate} :
    (∃ db', updateConfig env db data = .ok db') ↔
      data.NumbersAll ∧
        ∀ config ∈ db.getSingleton, ∀ expected ∈ data.version, expected = config.version := by
  rw [← exists_serialize_iff env]
  constructor
  · rintro ⟨db', h⟩
    obtain ⟨payload, hpayload, h⟩ := bind_eq_ok.mp h
    refine ⟨⟨payload, hpayload⟩, fun config hconfig => ?_⟩
    rw [Option.mem_def.mp hconfig] at h
    exact (updateById_eq_ok.mp h).1
  · rintro ⟨⟨payload, hpayload⟩, hversion⟩
    rw [updateConfig, hpayload, ok_bind]
    cases hconfig : db.getSingleton with
    | none => exact ⟨_, rfl⟩
    | some config => exact ⟨_, updateById_eq_ok.mpr ⟨hversion config hconfig, rfl⟩⟩

/-! ### Runs and compaction -/

/-- Entries that all read are read together, and their attempts are the numbers read. -/
theorem exists_reads_iff :
    (∃ read, List.Forall₂ RawEntry.Reads entries read ∧ (read.map (·.attempt)).Nodup) ↔
      (∀ entry ∈ entries, ∃ a, entry.Reads a) ∧ (entries.map (·.attempt.int?)).Nodup := by
  have hnumbers : ∀ {read}, List.Forall₂ RawEntry.Reads entries read →
      ((entries.map (·.attempt.int?)).Nodup ↔ (read.map (·.attempt)).Nodup) := by
    intro read hreads
    have hmap : entries.map (·.attempt.int?) = (read.map (·.attempt)).map some := by
      rw [List.map_map, ← List.forall₂_eq_eq_eq, List.forall₂_map_left_iff,
        List.forall₂_map_right_iff]
      exact hreads.imp fun entry a h => h.1
    rw [hmap, List.nodup_map_iff (Option.some_injective ℤ)]
  constructor
  · rintro ⟨read, hreads, hnd⟩
    refine ⟨fun entry hentry => ?_, (hnumbers hreads).mpr hnd⟩
    obtain ⟨a, -, ha⟩ := exists_of_forall₂_right hreads.flip hentry
    exact ⟨a, ha⟩
  · rintro ⟨hall, hnd⟩
    have : Nonempty AttemptFee := ⟨⟨0, ""⟩⟩
    choose! f hf using hall
    have hreads : List.Forall₂ RawEntry.Reads entries (entries.map f) :=
      List.forall₂_map_right_iff.mpr (List.forall₂_same.mpr hf)
    exact ⟨entries.map f, hreads, (hnumbers hreads).mp hnd⟩

/-- **Which lists are compacted**: those with an entry, in which all entries read, and no attempt
occurs twice. -/
theorem compact_accepted_iff :
    (∃ fees, compactAttemptFees env entries fieldName = .ok fees) ↔
      entries ≠ [] ∧ (∀ entry ∈ entries, ∃ a, entry.Reads a) ∧
        (entries.map (·.attempt.int?)).Nodup := by
  rw [← exists_reads_iff]
  constructor
  · rintro ⟨fees, h⟩
    obtain ⟨hne, read, hreads, hnd, -⟩ := compactAttemptFees_eq_ok.mp h
    exact ⟨hne, read, hreads, hnd⟩
  · rintro ⟨hne, read, hreads, hnd⟩
    exact ⟨_, compactAttemptFees_eq_ok.mpr ⟨hne, read, hreads, hnd, rfl⟩⟩

/-- **Compaction keeps the fees in the order of the attempts** that they were sent for. -/
theorem compact_keeps_order (h : compactAttemptFees env entries fieldName = .ok fees) :
    ∃ read ordered : List AttemptFee, List.Forall₂ RawEntry.Reads entries read ∧
      ordered.Perm read ∧ ordered.Pairwise (fun a b => a.attempt < b.attempt) ∧
        fees.map (·.fee) = ordered.map (·.fee) := by
  obtain ⟨-, read, hreads, hnd, rfl⟩ := compactAttemptFees_eq_ok.mp h
  refine ⟨read, sortedByAttempt read, hreads, List.perm_insertionSort _ _, ?_,
    map_fee_renumbered _⟩
  have hle : (sortedByAttempt read).Pairwise fun a b => a.attempt ≤ b.attempt :=
    List.pairwise_insertionSort (fun a b : AttemptFee => a.attempt ≤ b.attempt) read
  have hne : (sortedByAttempt read).Pairwise fun a b => a.attempt ≠ b.attempt := by
    refine List.pairwise_map.mp (((List.perm_insertionSort _ read).map _).nodup_iff.mpr ?_)
    exact hnd
  exact hle.imp₂ (fun _ _ => lt_of_le_of_ne) hne

/-- **The fees of the attempts stay contiguous.** In every state that requests lead to, both
lists of the configuration hold the attempts from one to the stored maximum, in order, with fees
in whole pence that are not negative. A full update is accepted exactly if both its lists number
all attempts up to a maximum of at least one, with fees that read, and the version it names, if
any, is that of the configuration. Compaction fails exactly on a list that is empty, has an entry
that does not read, or has an attempt twice; it keeps the fees in the order of their attempts, and
leaves a compacted list as it is. -/
theorem attempt_fees_stay_contiguous (env : Env) :
    (∀ requests : List AttemptRequest,
      ∀ config ∈ (Runs.run (AttemptRequest.step env) Table.empty requests).rows,
        config.WellFormed) ∧
    (∀ (db : Db) (data : DeliveryAttemptConfigUpdate),
      (∃ db', updateConfig env db data = .ok db') ↔
        data.NumbersAll ∧
          ∀ config ∈ db.getSingleton, ∀ expected ∈ data.version, expected = config.version) ∧
    ∀ (entries : List RawEntry) (fieldName : String),
      ((∃ fees, compactAttemptFees env entries fieldName = .ok fees) ↔
        entries ≠ [] ∧ (∀ entry ∈ entries, ∃ a, entry.Reads a) ∧
          (entries.map (·.attempt.int?)).Nodup) ∧
      ∀ fees, compactAttemptFees env entries fieldName = .ok fees →
        IsSchedule fees.length fees ∧
        (∃ read ordered : List AttemptFee, List.Forall₂ RawEntry.Reads entries read ∧
          ordered.Perm read ∧ ordered.Pairwise (fun a b => a.attempt < b.attempt) ∧
            fees.map (·.fee) = ordered.map (·.fee)) ∧
        compactAttemptFees env (fees.map AttemptFee.entry) fieldName = .ok fees := by
  refine ⟨fun requests => ?_, fun db data => updateConfig_accepted_iff, fun entries fieldName =>
    ⟨compact_accepted_iff, fun fees h => ⟨isSchedule_of_compact h, compact_keeps_order h,
      compactAttemptFees_idempotent h fieldName⟩⟩⟩
  have hempty : Db.WellFormed Table.empty := fun config hconfig => absurd hconfig List.not_mem_nil
  exact Runs.run_invariant (fun db request => wellFormed_step request) hempty requests

/-! ### Updates that are refused all the same -/

/-- A full update to one attempt of either kind, for five pounds. -/
def oneAttempt (version : Option ℕ) : DeliveryAttemptConfigUpdate :=
  ⟨some 1, [⟨.int 1, .decimal (.finite 5)⟩], some 1, [⟨.int 1, .decimal (.finite 5)⟩], version⟩

/-- A full update to no attempts. -/
def noAttempts : DeliveryAttemptConfigUpdate := ⟨some 0, [], some 0, [], none⟩

/-- Messages that leave the values out. -/
def tersely : Env := ⟨fun _ => "", fun _ => ""⟩

/-- The defaults, replaced once. -/
def replacedDb : Db :=
  Runs.run (AttemptRequest.step tersely) Table.empty [.getConfig, .updateConfig (oneAttempt none)]

/-- The right attempt numbers are not enough: an update that names an old version is refused,
and so is one without attempts, whose numbers are all those up to zero. -/
theorem right_numbers_refused :
    ¬ (∀ (db : Db) (data : DeliveryAttemptConfigUpdate) (n m : ℤ),
        data.maxDeliveryAttempts = some n → data.maxReturnAttempts = some m →
          ((∃ db', updateConfig tersely db data = .ok db') ↔
            (data.deliveryAttemptFees.map (·.attempt.int?)).Perm ((oneTo n).map some) ∧
              (data.returnAttemptFees.map (·.attempt.int?)).Perm ((oneTo m).map some))) ∧
      updateConfig tersely replacedDb noAttempts
        = .error (invalid "delivery_attempt_fees requires max_attempts >= 1.") := by
  refine ⟨fun h => ?_, rfl⟩
  obtain ⟨db', hdb'⟩ := (h replacedDb (oneAttempt (some 1)) 1 1 rfl rfl).mpr
    ⟨by decide, by decide⟩
  have hrefused : (updateConfig tersely replacedDb (oneAttempt (some 1))).isOk = false := by
    decide +kernel
  rw [hdb'] at hrefused
  exact Bool.false_ne_true hrefused.symm

end SwCouriers.DeliveryAttempts
