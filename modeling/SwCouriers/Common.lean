import Mathlib.Data.List.Basic
import SwCouriers.Lib.Checked
import SwCouriers.Lib.Padding

/-!
# Identifiers, Amounts and Errors

What every service of the back end shares: row identifiers, currency amounts in whole
pence, calendar days, and the exceptions of `app/common/exceptions.py` with the texts
that reach the client.

A `Decimal` that arrives from a client is a rational number of pounds. Before it is
stored it goes through `_money` (in the invoice service `_quantize`, in the ledger
`_q`; the three are one function), so a stored amount is an integer of pence. The
sums and differences the services take of stored amounts are exact, and quantizing
them again changes nothing (`money_stored`).
-/

namespace SwCouriers

/-- A primary key. The source draws UUIDs; only equality and freshness matter. -/
abbrev Id := ℕ

/-- A calendar day, counted from a fixed one. -/
abbrev Day := ℤ

/-- An instant, in microseconds. -/
abbrev Instant := ℤ

/-- `_money`: quantize an amount in pounds to whole pence, ties away from zero. -/
def money (amount : ℚ) : ℤ := Decimal.quantize amount

/-- The pounds that a stored amount stands for. -/
def pounds (amount : ℤ) : ℚ := Decimal.ofHundredths amount

@[simp] theorem money_stored (amount : ℤ) : money (pounds amount) = amount :=
  Decimal.quantize_ofHundredths amount

/-! ### Errors -/

/-- One entry of the `details` list of a validation error. -/
structure ErrorDetail where
  field : String
  message : String
  type : String
  deriving DecidableEq, Repr

/-- The exceptions the services raise. -/
inductive ServiceError where
  | validation (message : String) (details : List ErrorDetail)
  | notFound (resource : String) (id : Option Id)
  /-- `NotFoundError(resource, id=", ".join(ids))`. -/
  | notFoundAll (resource : String) (ids : List Id)
  | forbidden (message : String)
  /-- `AuthenticationError`. -/
  | authentication (message : String)
  | conflict (message : String)
  /-- A unique or check constraint of the database was violated. -/
  | integrity (constraint : String)
  /-- A validation error about a package beyond a limit of the organisation. Its text
  names the stop, the package, the quantity with its unit, and the two values. -/
  | packageLimit (stop package : ℕ) (what unit : String) (value limit : ℚ)
  /-- An exception that no handler turns into an answer. -/
  | uncaught (exception : String)
  deriving DecidableEq, Repr

/-- `ValidationError(message)`. -/
def invalid (message : String) : ServiceError := .validation message []

/-- `ValidationError(message, details=[{field, message, "value_error"}])`. -/
def invalidField (message field detail : String) : ServiceError :=
  .validation message [⟨field, detail, "value_error"⟩]

/-- `ConflictError(f"{tablename} was modified by another request.")`. -/
def modifiedElsewhere (tablename : String) : ServiceError :=
  .conflict (tablename ++ " was modified by another request.")

/-! ### Texts -/

/-- `str.strip`. -/
def strip (s : String) : String :=
  String.ofList (Decimal.stripSpace s.toList)

theorem strip_strip (s : String) : strip (strip s) = strip s := by
  simp only [strip, String.toList_ofList, Decimal.stripSpace_stripSpace]

/-- `str(value or "").strip() or None`. -/
def stripOrNone (value : Option String) : Option String :=
  match value with
  | none => none
  | some s => if strip s = "" then none else some (strip s)

/-- What is left of a text is stripped, and not empty. -/
theorem strip_of_stripOrNone {value : Option String} {text : String}
    (h : stripOrNone value = some text) : strip text = text ∧ text ≠ "" := by
  cases value with
  | none => exact absurd h (by simp [stripOrNone])
  | some s =>
      simp only [stripOrNone] at h
      split_ifs at h with hs
      obtain rfl := Option.some.inj h
      exact ⟨strip_strip s, hs⟩

/-- `f"{num:06d}"`. -/
def sixDigits (num : ℕ) : String :=
  let digits := Nat.toDigits 10 num
  String.ofList (List.replicate (6 - digits.length) '0' ++ digits)

/-- `prefix || '-' || lpad(nextval(seq)::text, width, '0')`, which cuts a longer number. -/
def serialNumber (head : String) (width num : ℕ) : String :=
  let digits := Nat.toDigits 10 num
  head ++ "-" ++ String.ofList ((List.replicate (width - digits.length) '0' ++ digits).take width)

/-- `int(text)` on a plain run of decimal digits; `none` is `ValueError`. -/
def parseInt (text : List Char) : Option ℕ :=
  if text ≠ [] ∧ text.all Char.isDigit then some (Nat.ofDigitChars 10 text 0) else none

/-- `func.max` over a text column. -/
def maxText : List String → Option String
  | [] => none
  | s :: rest => some (rest.foldl (fun m t => if m < t then t else m) s)

/-- The scheme of `next_refund_number`, `next_credit_note_number` and of the fallback
of `next_invoice_number`: one more than the greatest number in use with this head. The
maximum is taken over the texts, as the query does. -/
def nextDocumentNumber (head : String) (inUse : List String) : String :=
  match maxText (inUse.filter fun s => head.toList.isPrefixOf s.toList) with
  | none => head ++ "000001"
  | some maxCode =>
      match parseInt (maxCode.toList.drop head.length) with
      | some num => head ++ sixDigits (num + 1)
      | none => head ++ sixDigits 1

example : nextDocumentNumber "CN-" ["CN-000009", "REF-000044"] = "CN-000010" := by
  decide +kernel

/-! ### Keys as texts -/

/-- Primary keys as texts. `parses` tells what the UUID class accepts, `read` what key the
database takes a text for (`none` when the statement fails), and `write` is the canonical
text, which is what a loaded row holds. -/
structure UuidText where
  parses : String → Bool
  read : String → Option Id
  write : Id → String
  read_write : ∀ id, read (write id) = some id

theorem UuidText.write_injective (uuid : UuidText) : Function.Injective uuid.write := by
  intro a b h
  have hread := congrArg uuid.read h
  rw [uuid.read_write, uuid.read_write] at hread
  exact Option.some.inj hread

/-- The head of a UUID whose last twelve places hold a decimal number. -/
def decimalUuidHead : List Char := "00000000-0000-4000-8000-".toList

/-- A number in at least twelve places. -/
def twelvePlaces (n : ℕ) : List Char :=
  List.replicate (12 - (Nat.toDigits 10 n).length) '0' ++ Nat.toDigits 10 n

theorem parseInt_padded (width n : ℕ) : parseInt (Decimal.padded width n) = some n := by
  have hdigits : (Decimal.padded width n).all Char.isDigit = true :=
    List.all_eq_true.mpr fun _ => Decimal.isDigit_of_mem_padded
  rw [parseInt, if_pos ⟨Decimal.padded_ne_nil width n, hdigits⟩, Decimal.ofDigitChars_padded]

theorem parseInt_twelvePlaces (n : ℕ) : parseInt (twelvePlaces n) = some n :=
  parseInt_padded 12 n

/-- Keys that are UUIDs of this form. -/
def decimalUuid : UuidText where
  parses text := decide (decimalUuidHead <+: text.toList)
  read text := if decimalUuidHead <+: text.toList then
      parseInt (text.toList.drop decimalUuidHead.length)
    else none
  write id := String.ofList (decimalUuidHead ++ twelvePlaces id)
  read_write id := by
    rw [String.toList_ofList, if_pos (List.prefix_append _ _), List.drop_left,
      parseInt_twelvePlaces]

theorem comma_notMem_decimalUuid (id : Id) : ',' ∉ (decimalUuid.write id).toList := by
  rw [decimalUuid, String.toList_ofList, List.mem_append, twelvePlaces, List.mem_append]
  rintro (hhead | hzero | hdigit)
  · exact absurd hhead (by decide)
  · exact absurd (List.eq_of_mem_replicate hzero) (by decide)
  · exact absurd (Decimal.isDigit_of_mem_toDigits hdigit) (by decide)

end SwCouriers
