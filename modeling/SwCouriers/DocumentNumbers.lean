import SwCouriers.Common
import SwCouriers.Lib.Runs

/-!
# Document Numbers

Refunds, credit notes and, where the sequence is missing, invoices are numbered by one more than the
greatest number in use. The greatest is taken over the texts, six places filled with zeros, and each
column is unique. The texts are ordered as the numbers up to `999999`; the text of the millionth
document is below that of the one before it, so that from then on the same number comes again.

## Main results

* `maxText_issued`: the greatest text, which stops growing at `999999`.
* `nextNumber_issued`: the number that comes next after so many documents.
* `fresh_issued_iff`: it is new exactly below a million documents of the kind.
* `numbers_fresh_iff`: **a sequence of creations gets new numbers throughout exactly if it creates
  at most a million documents of each kind**.
-/

namespace SwCouriers.DocumentNumbers

open Runs

/-- The documents with numbers of their own. -/
inductive DocumentKind
  | refund
  | creditNote
  | invoice
  deriving DecidableEq, Repr

/-- The text before the number. -/
def DocumentKind.head : DocumentKind → String
  | .refund => "REF-"
  | .creditNote => "CN-"
  | .invoice => "INV-"

/-- The numbers in use, by kind. -/
abbrev Numbers := DocumentKind → List String

/-- `next_refund_number`. -/
def nextRefundNumber (numbers : Numbers) : String :=
  nextDocumentNumber "REF-" (numbers .refund)

/-- `next_credit_note_number`. -/
def nextCreditNoteNumber (numbers : Numbers) : String :=
  nextDocumentNumber "CN-" (numbers .creditNote)

/-- The fallback of `next_invoice_number`. -/
def nextInvoiceNumber (numbers : Numbers) : String :=
  nextDocumentNumber "INV-" (numbers .invoice)

/-- The number that a creation takes. -/
def nextNumber (numbers : Numbers) : DocumentKind → String
  | .refund => nextRefundNumber numbers
  | .creditNote => nextCreditNoteNumber numbers
  | .invoice => nextInvoiceNumber numbers

/-- One creation. The columns are unique: with a number in use the insert fails and nothing is
stored. -/
def create (numbers : Numbers) (kind : DocumentKind) : Numbers :=
  if nextNumber numbers kind ∈ numbers kind then numbers
  else Function.update numbers kind (numbers kind ++ [nextNumber numbers kind])

/-- The number that a creation takes is in use nowhere. -/
def Fresh (numbers : Numbers) (kind : DocumentKind) : Prop :=
  ∀ other, nextNumber numbers kind ∉ numbers other

theorem nextNumber_eq (numbers : Numbers) (kind : DocumentKind) :
    nextNumber numbers kind = nextDocumentNumber kind.head (numbers kind) := by
  cases kind <;> rfl

/-! ### The texts in use -/

/-- The first `count` numbers with this head. -/
def issued (head : String) (count : ℕ) : List String :=
  (List.range count).map fun i => head ++ sixDigits (i + 1)

variable {head : String} {count : ℕ}

theorem issued_succ (head : String) (count : ℕ) :
    issued head (count + 1) = issued head count ++ [head ++ sixDigits (count + 1)] := by
  rw [issued, List.range_succ, List.map_append]
  rfl

theorem mem_issued_iff {number : String} :
    number ∈ issued head count ↔ ∃ i < count, head ++ sixDigits (i + 1) = number := by
  simp only [issued, List.mem_map, List.mem_range]

theorem toList_sixDigits (num : ℕ) : (sixDigits num).toList = Decimal.padded 6 num :=
  String.toList_ofList

theorem append_sixDigits_injective (head : String) :
    Function.Injective fun num => head ++ sixDigits num := by
  intro m n h
  have htexts := congrArg String.toList h
  simp only [String.toList_append, toList_sixDigits] at htexts
  exact Decimal.padded_injective 6 (List.append_cancel_left htexts)

theorem append_lt_append {s t : String} (h : s < t) : head ++ s < head ++ t := by
  rw [String.lt_iff, String.toList_append, String.toList_append]
  exact List.append_left_lt h

/-- Up to six places the texts are ordered as the numbers. -/
theorem append_sixDigits_lt {m n : ℕ} (hmn : m < n) (hn : n < 1000000) :
    head ++ sixDigits m < head ++ sixDigits n := by
  refine append_lt_append ?_
  rw [String.lt_iff, toList_sixDigits, toList_sixDigits]
  exact (Decimal.padded_lt_padded_iff (hmn.trans hn) hn (by decide)).mpr hmn

/-- The first number with seven places has a smaller text than the last one with six. -/
theorem million_lt : sixDigits 1000000 < sixDigits 999999 := by decide +kernel

/-! ### The greatest text -/

theorem maxText_concat {texts : List String} {m : String} (h : maxText texts = some m)
    (t : String) : maxText (texts ++ [t]) = some (if m < t then t else m) := by
  cases texts with
  | nil => exact absurd h (Option.some_ne_none m).symm
  | cons s rest =>
      obtain rfl := Option.some.inj h
      rw [List.cons_append, maxText, List.foldl_append]
      rfl

/-- The greatest text grows with the number of documents until the places are used up. -/
theorem maxText_issued (head : String) (hcount : count < 1000000) :
    maxText (issued head (count + 1)) = some (head ++ sixDigits (min (count + 1) 999999)) := by
  induction count with
  | zero => rfl
  | succ count ih =>
      rw [issued_succ, maxText_concat (ih (Nat.lt_of_succ_lt hcount))]
      rcases Nat.lt_or_ge (count + 2) 1000000 with hlt | hge
      · rw [min_eq_left (by omega), min_eq_left (by omega),
          if_pos (append_sixDigits_lt (Nat.lt_succ_self _) hlt)]
      · -- the last number with six places stays the greatest text
        obtain rfl : count = 999998 := by omega
        have hnot : head ++ sixDigits 1000000 < head ++ sixDigits 999999 :=
          append_lt_append million_lt
        rw [min_eq_right (by decide), min_eq_right (by decide), if_neg (String.lt_asymm hnot)]

theorem filter_issued (head : String) (count : ℕ) :
    ((issued head count).filter fun s => head.toList.isPrefixOf s.toList) = issued head count := by
  refine List.filter_eq_self.mpr fun number hnumber => ?_
  obtain ⟨i, -, rfl⟩ := mem_issued_iff.mp hnumber
  rw [String.toList_append, List.isPrefixOf_iff_prefix]
  exact List.prefix_append _ _

/-- The number that comes next: after a million documents, the one that the last of them has. -/
theorem nextDocumentNumber_issued (head : String) (hcount : count ≤ 1000000) :
    nextDocumentNumber head (issued head count) = head ++ sixDigits (min count 999999 + 1) := by
  rw [nextDocumentNumber, filter_issued]
  cases count with
  | zero => rfl
  | succ count =>
      have hdrop : (head ++ sixDigits (min (count + 1) 999999)).toList.drop head.length =
          Decimal.padded 6 (min (count + 1) 999999) := by
        rw [String.toList_append, ← String.length_toList, List.drop_left, toList_sixDigits]
      rw [maxText_issued head hcount]
      simp only [hdrop, parseInt_padded]

/-! ### New numbers -/

theorem head?_head_append (kind : DocumentKind) (s : String) :
    (kind.head ++ s).toList.head? = kind.head.toList.head? := by
  rw [String.toList_append]
  exact List.head?_append_of_ne_nil _ (by cases kind <;> decide +kernel)

/-- The texts of two kinds differ in their first letter. -/
theorem eq_of_head_append {kind other : DocumentKind} {s t : String}
    (h : kind.head ++ s = other.head ++ t) : kind = other := by
  have hfirst : kind.head.toList.head? = other.head.toList.head? := by
    rw [← head?_head_append kind s, ← head?_head_append other t, h]
  cases kind <;> cases other <;> first | rfl | exact absurd hfirst (by decide +kernel)

variable {counts : DocumentKind → ℕ}

/-- The numbers in use after so many documents of each kind. -/
def issuedNumbers (counts : DocumentKind → ℕ) : Numbers :=
  fun kind => issued kind.head (counts kind)

theorem nextNumber_issued (hcounts : ∀ kind, counts kind ≤ 1000000) (kind : DocumentKind) :
    nextNumber (issuedNumbers counts) kind =
      kind.head ++ sixDigits (min (counts kind) 999999 + 1) := by
  rw [nextNumber_eq]
  exact nextDocumentNumber_issued kind.head (hcounts kind)

/-- The next number is new exactly below a million documents of the kind. -/
theorem fresh_issued_iff (hcounts : ∀ kind, counts kind ≤ 1000000) (kind : DocumentKind) :
    Fresh (issuedNumbers counts) kind ↔ counts kind < 1000000 := by
  have hnext := nextNumber_issued hcounts kind
  constructor
  · intro hfresh
    refine lt_of_le_of_ne (hcounts kind) fun hlast => hfresh kind ?_
    rw [hnext, hlast]
    exact mem_issued_iff.mpr ⟨999999, by rw [hlast]; decide, rfl⟩
  · intro hlt other hmem
    rw [hnext, min_eq_left (Nat.le_of_lt_succ hlt)] at hmem
    obtain ⟨i, hi, heq⟩ := mem_issued_iff.mp hmem
    obtain rfl := eq_of_head_append heq
    have hnum := Nat.succ.inj (append_sixDigits_injective _ heq)
    exact absurd hi (by omega)

/-- A creation with a new number is one document more. -/
theorem create_issuedNumbers (hcounts : ∀ kind, counts kind ≤ 1000000) {kind : DocumentKind}
    (hlt : counts kind < 1000000) :
    create (issuedNumbers counts) kind =
      issuedNumbers (Function.update counts kind (counts kind + 1)) := by
  have hfresh := (fresh_issued_iff hcounts kind).mpr hlt kind
  have hnext := nextNumber_issued hcounts kind
  rw [min_eq_left (Nat.le_of_lt_succ hlt)] at hnext
  rw [create, if_neg hfresh, hnext]
  funext other
  rcases eq_or_ne other kind with rfl | hother
  · rw [Function.update_self, issuedNumbers, issuedNumbers, Function.update_self, issued_succ]
  · rw [Function.update_of_ne hother, issuedNumbers, issuedNumbers, Function.update_of_ne hother]

/-! ### Whole sequences -/

/-- No document has been created. -/
def noNumbers : Numbers := fun _ => []

theorem update_count (kinds : List DocumentKind) (kind : DocumentKind) :
    Function.update (fun k => kinds.count k) kind (kinds.count kind + 1) =
      fun k => (kinds ++ [kind]).count k := by
  funext k
  rcases eq_or_ne k kind with rfl | hk
  · rw [Function.update_self, List.count_append, List.count_singleton_self]
  · rw [Function.update_of_ne hk, List.count_append, List.count_singleton,
      if_neg (by simpa using hk.symm), Nat.add_zero]

/-- As long as no kind has more than a million documents, the numbers in use are the first ones. -/
theorem run_create (kinds : List DocumentKind) (hkinds : ∀ kind, kinds.count kind ≤ 1000000) :
    run create noNumbers kinds = issuedNumbers fun kind => kinds.count kind := by
  induction kinds using List.reverseRecOn with
  | nil => rfl
  | append_singleton kinds kind ih =>
      have hlt : kinds.count kind < 1000000 := by
        have hle := hkinds kind
        rwa [List.count_append, List.count_singleton_self] at hle
      have hbefore : ∀ k, kinds.count k ≤ 1000000 := fun k =>
        (List.sublist_append_left kinds [kind]).count_le k |>.trans (hkinds k)
      rw [run_append, ih hbefore, run_cons, run_nil, create_issuedNumbers hbefore hlt,
        update_count]

/-- With one creation more, the numbers stay new exactly below a million of its kind. -/
theorem along_fresh_iff (kinds : List DocumentKind) :
    Along create Fresh noNumbers kinds ↔ ∀ kind, kinds.count kind ≤ 1000000 := by
  induction kinds using List.reverseRecOn with
  | nil => exact iff_of_true trivial fun _ => Nat.zero_le _
  | append_singleton kinds kind ih =>
      rw [along_append, ih]
      constructor
      · rintro ⟨hbefore, hfresh, -⟩ k
        rw [run_create kinds hbefore, fresh_issued_iff hbefore] at hfresh
        rw [List.count_append, List.count_singleton]
        split_ifs with hk
        · rw [← beq_iff_eq.mp hk]
          exact hfresh
        · exact hbefore k
      · intro hall
        have hbefore : ∀ k, kinds.count k ≤ 1000000 := fun k =>
          (List.sublist_append_left kinds [kind]).count_le k |>.trans (hall k)
        refine ⟨hbefore, ?_, trivial⟩
        rw [run_create kinds hbefore, fresh_issued_iff hbefore]
        have hle := hall kind
        rwa [List.count_append, List.count_singleton_self] at hle

/-- **A sequence of creations gets new numbers throughout exactly if it creates at most a million
documents of each kind.** -/
theorem numbers_fresh_iff (kinds : List DocumentKind) :
    (∀ pre kind post, kinds = pre ++ kind :: post →
      Fresh (run create noNumbers pre) kind) ↔ ∀ kind, kinds.count kind ≤ 1000000 :=
  along_iff.symm.trans (along_fresh_iff kinds)

/-- The refund after the millionth is refused: it takes the number of the millionth. -/
theorem refund_after_a_million :
    ¬ ∀ pre kind post, List.replicate 1000001 DocumentKind.refund = pre ++ kind :: post →
      Fresh (run create noNumbers pre) kind := by
  intro hfresh
  have hcount := (along_fresh_iff _).mp (along_iff.mpr hfresh) .refund
  rw [List.count_replicate_self] at hcount
  exact absurd hcount (by decide)

end SwCouriers.DocumentNumbers
