import Mathlib.Data.List.Sort
import SwCouriers.Lib.Table
import SwCouriers.Pricing

/-!
# Delivery Attempts

The charges for attempts at delivery and at return: `app/modules/delivery_attempts/domain.py`
reads lists of entries, and `DeliveryAttemptService` keeps the one row of the configuration,
which holds a list and the number of attempts for either kind.

An entry may hold any value under its keys. `int` and `Decimal` read numbers, decimals and
texts, and refuse the rest. A full update has to number the attempts from one without a gap; a
patch may leave gaps, which are closed.

## Main definitions

* `coerceEntries`: what every list is read by, or the error of its first bad entry.
* `validateStrictAttemptFees`, `compactAttemptFees`: the strict and the repairing reading.
* `AttemptRequest.step`: one request to the service, rolled back when it raises.
-/

namespace SwCouriers.DeliveryAttempts

open Checked

/-! ### Values -/

/-- A `Decimal`. -/
inductive DecimalValue where
  | finite (q : ℚ)
  | infinite (negative : Bool)
  | nan
  deriving DecidableEq

/-- A value under a key of an entry; `other` is one that no number is read from. -/
inductive RawValue where
  | none
  | int (n : ℤ)
  | decimal (d : DecimalValue)
  | text (s : String)
  | other (shown : String)
  deriving DecidableEq

/-- How values are written in messages. -/
structure Env where
  /-- `f"{value!r}"`. -/
  repr : RawValue → String
  /-- `str(Decimal(str(value)))`. -/
  shown : RawValue → String

/-- `int(text)`: digits with an optional sign, single underscores between them, and white space
around; `none` is `ValueError`. -/
def intOfText (s : String) : Option ℤ :=
  let digits (cs : List Char) : Option ℤ :=
    let groups := cs.splitOn '_'
    if (∀ g ∈ groups, g ≠ []) ∧ groups.flatten.length ≤ 4300 then
      (parseInt groups.flatten).map fun n => (n : ℤ)
    else none
  match Decimal.stripSpace s.toList with
  | '-' :: cs => (digits cs).map fun n => -n
  | '+' :: cs => digits cs
  | cs => digits cs

/-- `int(value)`; `TypeError` and `ValueError` become the given one. -/
def intOf (caught : ServiceError) : RawValue → Except ServiceError ℤ
  | .int n => .ok n
  | .decimal (.finite q) => .ok (q.num.tdiv q.den)
  | .decimal (.infinite _) => .error (.uncaught "OverflowError")
  | .text s => orRaise (intOfText s) caught
  | _ => .error caught

/-- The words for infinity and for no number, without a sign. -/
def specialOf (negative : Bool) (cs : List Char) : Option DecimalValue :=
  let cs := cs.map Char.toLower
  let payload := if cs.head? = some 's' then cs.drop 1 else cs
  if cs = "inf".toList ∨ cs = "infinity".toList then some (.infinite negative)
  else if payload.take 3 = "nan".toList ∧ (payload.drop 3).all Char.isDigit then some .nan
  else none

/-- `Decimal(text)`; `none` is `InvalidOperation`. -/
def decimalOfText (s : String) : Option DecimalValue :=
  match Decimal.parse s with
  | some q => some (.finite q)
  | none =>
      match (Decimal.stripSpace s.toList).filter (· ≠ '_') with
      | '-' :: cs => specialOf true cs
      | '+' :: cs => specialOf false cs
      | cs => specialOf false cs

/-- `Decimal(str(value))`. -/
def decimalOf : RawValue → Option DecimalValue
  | .int n => some (.finite n)
  | .decimal d => some d
  | .text s => decimalOfText s
  | _ => none

/-! ### Entries -/

/-- An entry as it is sent; a key that is missing holds `none`. -/
structure RawEntry where
  attempt : RawValue
  fee : RawValue
  deriving DecidableEq

/-- An entry as it is stored. -/
structure AttemptFee where
  attempt : ℤ
  fee : String
  deriving DecidableEq, Repr

/-- A stored entry, read again. -/
def AttemptFee.entry (a : AttemptFee) : RawEntry := ⟨.int a.attempt, .text a.fee⟩

/-- `default_fee_entries`. -/
def defaultFeeEntries (maxAttempts : ℕ) : List AttemptFee :=
  (List.range maxAttempts).map fun i : ℕ => ⟨(i : ℤ) + 1, "0.00"⟩

/-- `_coerce_fee`: the fee in pence. A fee of more digits than the decimal context has cannot be
quantized. -/
def coerceFee (env : Env) (value : RawValue) (fieldName : String) : Except ServiceError ℤ := do
  let fee ← orRaise (decimalOf value)
    (invalid (fieldName ++ " contains an invalid fee value: " ++ env.repr value ++ "."))
  let negative := invalid (fieldName ++ " contains a negative fee: " ++ env.shown value ++ ".")
  match fee with
  | .finite q => do
      raiseIf (q < 0) negative
      raiseIf (10 ^ 28 ≤ money q) invalidOperation
      return money q
  | .infinite true => .error negative
  | .infinite false => .error invalidOperation
  | .nan => .error invalidOperation

/-- One round of the loop of `_coerce_entries`. -/
def coerceEntry (env : Env) (fieldName : String) (idx : ℕ) (seenAttempts : List ℤ)
    (entry : RawEntry) : Except ServiceError AttemptFee := do
  let place := fieldName ++ "[" ++ toString idx ++ "]"
  raiseIf (entry.attempt = .none ∨ entry.fee = .none)
    (invalid (place ++ " must include both 'attempt' and 'fee'."))
  let attempt ← intOf (invalid (place ++ ".attempt must be an integer.")) entry.attempt
  raiseIf (attempt < 1) (invalid (place ++ ".attempt must be >= 1."))
  raiseIf (attempt ∈ seenAttempts)
    (invalid (fieldName ++ " contains duplicate attempt number " ++ toString attempt ++ "."))
  let fee ← coerceFee env entry.fee fieldName
  return ⟨attempt, Decimal.render fee⟩

/-- The loop of `_coerce_entries`. -/
def coerceEntriesFrom (env : Env) (fieldName : String) (idx : ℕ) (seenAttempts : List ℤ) :
    List RawEntry → Except ServiceError (List AttemptFee)
  | [] => .ok []
  | entry :: entries => do
      let coerced ← coerceEntry env fieldName idx seenAttempts entry
      let rest ← coerceEntriesFrom env fieldName (idx + 1) (coerced.attempt :: seenAttempts) entries
      return coerced :: rest

/-- `_coerce_entries`. -/
def coerceEntries (env : Env) (entries : List RawEntry) (fieldName : String) :
    Except ServiceError (List AttemptFee) :=
  coerceEntriesFrom env fieldName 0 [] entries

/-- `list(range(1, max_attempts + 1))`. -/
def oneTo (maxAttempts : ℤ) : List ℤ :=
  (List.range maxAttempts.toNat).map fun i : ℕ => (i : ℤ) + 1

/-- The entries in the order of their attempts. -/
def sortedByAttempt (entries : List AttemptFee) : List AttemptFee :=
  entries.insertionSort fun a b => a.attempt ≤ b.attempt

/-- `validate_strict_attempt_fees`. -/
def validateStrictAttemptFees (env : Env) (entries : List RawEntry) (maxAttempts : ℤ)
    (fieldName : String) : Except ServiceError (List AttemptFee) := do
  raiseIf (maxAttempts < 1) (invalid (fieldName ++ " requires max_attempts >= 1."))
  let normalized ← coerceEntries env entries fieldName
  raiseIf ((normalized.length : ℤ) ≠ maxAttempts)
    (invalid (fieldName ++ " must have exactly " ++ toString maxAttempts ++ " entries, got "
      ++ toString normalized.length ++ "."))
  raiseIf ((normalized.map (·.attempt)).insertionSort (· ≤ ·) ≠ oneTo maxAttempts)
    (invalid (fieldName ++ " attempt numbers must be sequential from 1 to "
      ++ toString maxAttempts ++ "."))
  return sortedByAttempt normalized

/-- The entries numbered from one, in their order. -/
def renumbered (entries : List AttemptFee) : List AttemptFee :=
  entries.mapIdx fun i a => ⟨(i : ℤ) + 1, a.fee⟩

/-- `compact_attempt_fees`. -/
def compactAttemptFees (env : Env) (entries : List RawEntry) (fieldName : String) :
    Except ServiceError (List AttemptFee) := do
  let normalized ← coerceEntries env entries fieldName
  raiseIf (normalized = []) (invalid (fieldName ++ " must contain at least one attempt."))
  return renumbered (sortedByAttempt normalized)

/-! ### The configuration -/

/-- `DeliveryAttemptConfig`. -/
structure DeliveryAttemptConfig where
  id : Id
  maxDeliveryAttempts : ℤ
  deliveryAttemptFees : Option (List AttemptFee)
  maxReturnAttempts : ℤ
  returnAttemptFees : Option (List AttemptFee)
  version : ℕ
  deriving DecidableEq, Repr

/-- The table of the configuration. -/
abbrev Db := Table DeliveryAttemptConfig.id

/-- `get_singleton`. -/
def Db.getSingleton (db : Db) : Option DeliveryAttemptConfig := db.rows.head?

/-- `DeliveryAttemptConfigUpdate`. -/
structure DeliveryAttemptConfigUpdate where
  maxDeliveryAttempts : Option ℤ
  deliveryAttemptFees : List RawEntry
  maxReturnAttempts : Option ℤ
  returnAttemptFees : List RawEntry
  version : Option ℕ

/-- `DeliveryAttemptConfigPatch`. -/
structure DeliveryAttemptConfigPatch where
  maxDeliveryAttempts : Option ℤ
  deliveryAttemptFees : Option (List RawEntry)
  maxReturnAttempts : Option ℤ
  returnAttemptFees : Option (List RawEntry)
  version : Option ℕ

/-- The columns that a call writes; one that is `none` is left as it is. -/
structure Incoming where
  maxDeliveryAttempts : Option ℤ
  deliveryAttemptFees : Option (List AttemptFee)
  maxReturnAttempts : Option ℤ
  returnAttemptFees : Option (List AttemptFee)

/-- The row with the columns written. -/
def Incoming.apply (incoming : Incoming) (config : DeliveryAttemptConfig) :
    DeliveryAttemptConfig :=
  { config with
    maxDeliveryAttempts := incoming.maxDeliveryAttempts.getD config.maxDeliveryAttempts
    deliveryAttemptFees := incoming.deliveryAttemptFees.or config.deliveryAttemptFees
    maxReturnAttempts := incoming.maxReturnAttempts.getD config.maxReturnAttempts
    returnAttemptFees := incoming.returnAttemptFees.or config.returnAttemptFees
    version := config.version + 1 }

/-- `BaseRepository.create`. -/
def Db.create (db : Db) (maxDeliveryAttempts : ℤ) (deliveryAttemptFees : List AttemptFee)
    (maxReturnAttempts : ℤ) (returnAttemptFees : List AttemptFee) : Db :=
  db.insert ⟨db.fresh, maxDeliveryAttempts, some deliveryAttemptFees, maxReturnAttempts,
    some returnAttemptFees, 1⟩

/-- `BaseRepository.update_by_id` of the row that was read. -/
def Db.updateById (db : Db) (config : DeliveryAttemptConfig) (incoming : Incoming)
    (expectedVersion : Option ℕ) : Except ServiceError Db := do
  checkEach (fun expected => raiseIf (config.version ≠ expected)
    (modifiedElsewhere "delivery_attempt_configs")) expectedVersion.toList
  return db.modify config.id incoming.apply fun _ => rfl

/-! ### The service -/

/-- `get_config`: the first call seeds the defaults. -/
def getConfig (db : Db) : Db :=
  match db.getSingleton with
  | some _ => db
  | none => db.create 3 (defaultFeeEntries 3) 3 (defaultFeeEntries 3)

/-- The four values of `_serialize_full_payload`. -/
structure FullPayload where
  maxDeliveryAttempts : ℤ
  deliveryAttemptFees : List AttemptFee
  maxReturnAttempts : ℤ
  returnAttemptFees : List AttemptFee

/-- `_serialize_full_payload`. -/
def serializeFullPayload (env : Env) (data : DeliveryAttemptConfigUpdate) :
    Except ServiceError FullPayload := do
  let underived := invalid "max attempt values could not be derived from fee arrays."
  let maxDelivery ← orRaise data.maxDeliveryAttempts underived
  let maxReturn ← orRaise data.maxReturnAttempts underived
  let delivery ← validateStrictAttemptFees env data.deliveryAttemptFees maxDelivery
    "delivery_attempt_fees"
  let return_ ← validateStrictAttemptFees env data.returnAttemptFees maxReturn
    "return_attempt_fees"
  return ⟨maxDelivery, delivery, maxReturn, return_⟩

/-- A row with the full payload. -/
def Db.createFull (db : Db) (payload : FullPayload) : Db :=
  db.create payload.maxDeliveryAttempts payload.deliveryAttemptFees payload.maxReturnAttempts
    payload.returnAttemptFees

/-- `create_config`. -/
def createConfig (env : Env) (db : Db) (data : DeliveryAttemptConfigUpdate) :
    Except ServiceError Db := do
  raiseIf (db.getSingleton.isSome)
    (.conflict "Global delivery attempt configuration already exists.")
  let payload ← serializeFullPayload env data
  return db.createFull payload

/-- `update_config`. -/
def updateConfig (env : Env) (db : Db) (data : DeliveryAttemptConfigUpdate) :
    Except ServiceError Db := do
  let payload ← serializeFullPayload env data
  match db.getSingleton with
  | none => return db.createFull payload
  | some config =>
      db.updateById config ⟨some payload.maxDeliveryAttempts, some payload.deliveryAttemptFees,
        some payload.maxReturnAttempts, some payload.returnAttemptFees⟩ data.version

/-- What `patch_config` writes for one kind of attempt: the list that was sent, compacted, with
its length, or the number that was sent if it is the length of the list that is stored. -/
def patchFees (env : Env) (feesName maxName : String) (existing : Option (List AttemptFee))
    (fees : Option (List RawEntry)) (maxAttempts : Option ℤ) :
    Except ServiceError (Option (List AttemptFee) × Option ℤ) :=
  match fees with
  | some entries => do
      let compacted ← compactAttemptFees env entries feesName
      checkEach (fun requested => raiseIf (requested ≠ (compacted.length : ℤ))
        (invalid (maxName ++ "=" ++ toString requested ++ " does not match compacted " ++ feesName
          ++ " length " ++ toString compacted.length ++ "."))) maxAttempts.toList
      return (some compacted, some (compacted.length : ℤ))
  | none => do
      checkEach (fun requested => raiseIf (((existing.getD []).length : ℤ) ≠ requested)
        (invalid (maxName ++ " cannot be changed without " ++ feesName
          ++ ". Send the full fee list for compact renumbering."))) maxAttempts.toList
      return (none, maxAttempts)

/-- `patch_config`. Where no row is found, the error gives `singleton` for its identifier. -/
def patchConfig (env : Env) (db : Db) (data : DeliveryAttemptConfigPatch) :
    Except ServiceError Db := do
  let config ← orRaise db.getSingleton (.notFound "delivery_attempt_config" none)
  raiseIf (data.maxDeliveryAttempts = none ∧ data.deliveryAttemptFees = none ∧
      data.maxReturnAttempts = none ∧ data.returnAttemptFees = none)
    (invalid "At least one mutable field is required.")
  let delivery ← patchFees env "delivery_attempt_fees" "max_delivery_attempts"
    config.deliveryAttemptFees data.deliveryAttemptFees data.maxDeliveryAttempts
  let return_ ← patchFees env "return_attempt_fees" "max_return_attempts"
    config.returnAttemptFees data.returnAttemptFees data.maxReturnAttempts
  db.updateById config ⟨delivery.2, delivery.1, return_.2, return_.1⟩ data.version

/-- `delete_config`. -/
def deleteConfig (db : Db) : Except ServiceError Db := do
  let config ← orRaise db.getSingleton (.notFound "delivery_attempt_config" none)
  return db.deleteWhere fun r => r.id = config.id

/-! ### Requests -/

/-- The requests to the service. -/
inductive AttemptRequest where
  | getConfig
  | createConfig (data : DeliveryAttemptConfigUpdate)
  | updateConfig (data : DeliveryAttemptConfigUpdate)
  | patchConfig (data : DeliveryAttemptConfigPatch)
  | deleteConfig

/-- Serve a request. -/
def AttemptRequest.exec (env : Env) (db : Db) : AttemptRequest → Except ServiceError Db
  | .getConfig => .ok (DeliveryAttempts.getConfig db)
  | .createConfig data => DeliveryAttempts.createConfig env db data
  | .updateConfig data => DeliveryAttempts.updateConfig env db data
  | .patchConfig data => DeliveryAttempts.patchConfig env db data
  | .deleteConfig => DeliveryAttempts.deleteConfig db

/-- Serve a request; a call that raises is rolled back. -/
def AttemptRequest.step (env : Env) (db : Db) (request : AttemptRequest) : Db :=
  settle db (request.exec env db)

end SwCouriers.DeliveryAttempts
