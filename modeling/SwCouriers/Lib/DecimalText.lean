import Mathlib.Data.List.DropRight
import SwCouriers.Lib.Decimal

/-!
# Decimal Texts

An amount in hundredths is written as a plain decimal with two places. The reader takes
plain notation (an optional sign, digits, and optionally a point and more digits) and
scientific notation with surrounding white space and underscores. Reading what was
written gives the amount back, whatever its sign and size, and what is written is never
the empty text.

## Main results

* `parse_render`: the round trip.
* `render_ne_empty`: a written amount is not empty.
-/

namespace Decimal

/-- The two digits of a number below one hundred. -/
def twoDigits (m : ℕ) : List Char :=
  [Nat.digitChar (m / 10), Nat.digitChar (m % 10)]

/-- The digits of an amount without its sign. -/
def renderNat (m : ℕ) : List Char :=
  Nat.toDigits 10 (m / 100) ++ '.' :: twoDigits (m % 100)

/-- Write an amount in hundredths with two places. -/
def render (n : ℤ) : String :=
  String.ofList ((if n < 0 then ['-'] else []) ++ renderNat n.natAbs)

/-- Read digits with at most one point. -/
def parseUnsigned (cs : List Char) : Option ℚ :=
  let whole := cs.takeWhile (· ≠ '.')
  let places := (cs.dropWhile (· ≠ '.')).drop 1
  if whole ++ places ≠ [] ∧ (whole ++ places).all Char.isDigit then
    some (Nat.ofDigitChars 10 (whole ++ places) 0 / 10 ^ places.length)
  else none

/-- Read a plain decimal. -/
def parsePlain : List Char → Option ℚ
  | '-' :: cs => (parseUnsigned cs).map fun q => -q
  | '+' :: cs => parseUnsigned cs
  | cs => parseUnsigned cs

/-- Read an exponent: digits with an optional sign. -/
def parseExponent (cs : List Char) : Option ℤ :=
  let magnitude (ds : List Char) : Option ℤ :=
    if ds ≠ [] ∧ ds.all Char.isDigit then some (Nat.ofDigitChars 10 ds 0) else none
  match cs with
  | '-' :: ds => (magnitude ds).map fun n => -n
  | '+' :: ds => magnitude ds
  | ds => magnitude ds

/-- Read a decimal in scientific notation. -/
def parseScientific (cs : List Char) : Option ℚ := do
  let mantissa ← parsePlain (cs.takeWhile fun c => c ≠ 'e' ∧ c ≠ 'E')
  match cs.dropWhile fun c => c ≠ 'e' ∧ c ≠ 'E' with
  | [] => some mantissa
  | _ :: exponent => do
      let e ← parseExponent exponent
      some (mantissa * 10 ^ e)

/-- The white space that may surround a number. -/
def isSpace (c : Char) : Bool :=
  c ∈ ['\t', '\n', '\x0b', '\x0c', '\r', '\x1c', '\x1d', '\x1e', '\x1f', ' ', '\x85',
    '\xa0', '\u1680', '\u2028', '\u2029', '\u202f', '\u205f', '\u3000'] ||
  ('\u2000' ≤ c && c ≤ '\u200a')

/-- Drop the white space on either side. -/
def stripSpace (cs : List Char) : List Char :=
  ((cs.dropWhile isSpace).reverse.dropWhile isSpace).reverse

/-- Read a decimal. -/
def parse (s : String) : Option ℚ :=
  (parsePlain s.toList).or (parseScientific ((stripSpace s.toList).filter (· ≠ '_')))

/-- Stripped text has no white space left to strip. -/
theorem stripSpace_stripSpace (cs : List Char) : stripSpace (stripSpace cs) = stripSpace cs := by
  have hprefix : stripSpace cs <+: cs.dropWhile isSpace := List.rdropWhile_prefix _ _
  have hleft : (stripSpace cs).dropWhile isSpace = stripSpace cs := by
    obtain ⟨rest, hrest⟩ := hprefix
    cases hs : stripSpace cs with
    | nil => rfl
    | cons c s =>
        have hc : isSpace c = false := by
          rw [hs, List.cons_append] at hrest
          have hhead := List.dropWhile_get_zero_not isSpace cs (by rw [← hrest]; simp)
          simpa [← hrest] using hhead
        rw [List.dropWhile_cons_of_neg (by simp [hc])]
  rw [stripSpace, hleft]
  exact List.rdropWhile_idempotent isSpace (cs.dropWhile isSpace)

/-! ### Digits -/

variable {c : Char} {m : ℕ}

theorem isDigit_of_mem_toDigits (hc : c ∈ Nat.toDigits 10 m) : c.isDigit = true :=
  Nat.isDigit_of_mem_toDigits (by decide) (by decide) hc

theorem ne_of_isDigit {e : Char} (hc : c.isDigit = true) (he : e.isDigit = false) : c ≠ e := by
  rintro rfl
  rw [hc] at he
  exact absurd he (by decide)

theorem all_isDigit_toDigits (m : ℕ) : (Nat.toDigits 10 m).all Char.isDigit = true :=
  List.all_eq_true.mpr fun _ hc => isDigit_of_mem_toDigits hc

theorem all_isDigit_twoDigits (h : m < 100) : (twoDigits m).all Char.isDigit = true := by
  simp only [twoDigits, List.all_cons, List.all_nil, Nat.isDigit_digitChar, Bool.and_true,
    Bool.and_eq_true, decide_eq_true_eq]
  omega

theorem ofDigitChars_twoDigits (h : m < 100) (init : ℕ) :
    Nat.ofDigitChars 10 (twoDigits m) init = 100 * init + m := by
  rw [twoDigits, Nat.ofDigitChars_cons_digitChar_of_lt_ten (by omega),
    Nat.ofDigitChars_cons_digitChar_of_lt_ten (by omega), Nat.ofDigitChars_nil]
  omega

/-! ### The round trip -/

theorem parseUnsigned_renderNat (m : ℕ) :
    parseUnsigned (renderNat m) = some ((m : ℚ) / 100) := by
  have hlt : m % 100 < 100 := Nat.mod_lt m (by decide)
  -- The point is the first character that is not a digit.
  have hpoint : ∀ c ∈ Nat.toDigits 10 (m / 100), decide (c ≠ '.') = true := by
    intro c hc
    exact decide_eq_true (ne_of_isDigit (isDigit_of_mem_toDigits hc) (by decide))
  have hwhole : (renderNat m).takeWhile (· ≠ '.') = Nat.toDigits 10 (m / 100) := by
    rw [renderNat, List.takeWhile_append_of_pos hpoint]
    simp
  have hplaces : ((renderNat m).dropWhile (· ≠ '.')).drop 1 = twoDigits (m % 100) := by
    rw [renderNat, List.dropWhile_append_of_pos hpoint]
    simp
  have hvalue : Nat.ofDigitChars 10 (Nat.toDigits 10 (m / 100) ++ twoDigits (m % 100)) 0
      = m := by
    rw [Nat.ofDigitChars_append, Nat.ofDigitChars_ten_toDigits, ofDigitChars_twoDigits hlt]
    omega
  have hdigits : (Nat.toDigits 10 (m / 100) ++ twoDigits (m % 100)).all Char.isDigit
      = true := by
    rw [List.all_append, all_isDigit_toDigits, all_isDigit_twoDigits hlt]
    rfl
  have hne : Nat.toDigits 10 (m / 100) ++ twoDigits (m % 100) ≠ [] := by
    simp [twoDigits]
  simp only [parseUnsigned, hwhole, hplaces, hvalue, hdigits, ne_eq, hne, not_false_eq_true,
    and_self, if_true]
  norm_num [twoDigits]

/-- The first character written is a digit, so no sign is read by mistake. -/
theorem renderNat_cons (m : ℕ) : ∃ c cs, renderNat m = c :: cs ∧ c.isDigit = true := by
  cases hd : Nat.toDigits 10 (m / 100) with
  | nil => exact absurd hd (List.ne_nil_of_length_pos Nat.length_toDigits_pos)
  | cons c cs =>
      refine ⟨c, cs ++ '.' :: twoDigits (m % 100), by rw [renderNat, hd]; rfl, ?_⟩
      exact isDigit_of_mem_toDigits (hd.symm ▸ List.mem_cons_self)

/-- **Reading what was written gives the amount back.** -/
@[simp] theorem parse_render (n : ℤ) : parse (render n) = some (ofHundredths n) := by
  obtain ⟨c, cs, hcs, hc⟩ := renderNat_cons n.natAbs
  have hparse := parseUnsigned_renderNat n.natAbs
  suffices hplain : parsePlain ((if n < 0 then ['-'] else []) ++ renderNat n.natAbs)
      = some (ofHundredths n) by
    rw [parse, render, String.toList_ofList, hplain]
    rfl
  by_cases h : n < 0
  · rw [if_pos h, List.singleton_append]
    simp only [parsePlain, hparse, Option.map_some]
    have habs : ((n.natAbs : ℤ) : ℚ) = -n := by
      rw [Int.ofNat_natAbs_of_nonpos h.le, Int.cast_neg]
    rw [ofHundredths, ← Int.cast_natCast, habs]
    congr 1
    ring
  · rw [if_neg h, List.nil_append, hcs]
    have habs : ((n.natAbs : ℤ) : ℚ) = n := by
      rw [Int.natAbs_of_nonneg (not_lt.mp h)]
    rw [hcs] at hparse
    rw [ofHundredths, ← habs, Int.cast_natCast, ← hparse]
    have hminus : c ≠ '-' := ne_of_isDigit hc (by decide)
    have hplus : c ≠ '+' := ne_of_isDigit hc (by decide)
    unfold parsePlain
    split
    · exact absurd (List.cons.inj ‹_›).1 hminus
    · exact absurd (List.cons.inj ‹_›).1 hplus
    · rfl

theorem render_ne_empty (n : ℤ) : render n ≠ "" := by
  intro h
  have hnone : parse "" = none := by decide +kernel
  have hparse := parse_render n
  rw [h, hnone] at hparse
  exact absurd hparse (Option.some_ne_none _).symm

/-! ### Whole numbers -/

theorem toDigits_injective {n : ℕ} (h : Nat.toDigits 10 m = Nat.toDigits 10 n) : m = n := by
  rw [← @Nat.ofDigitChars_ten_toDigits m, h, Nat.ofDigitChars_ten_toDigits]

/-- A number is told by its text: by its sign, and by its digits. -/
theorem toString_int_injective : Function.Injective (toString : ℤ → String) := by
  have hnat : ∀ m : ℕ, (toString (Int.ofNat m)).toList = Nat.toDigits 10 m := by
    intro m
    exact String.toList_ofList
  have hneg : ∀ m : ℕ, (toString (Int.negSucc m)).toList = '-' :: Nat.toDigits 10 (m + 1) := by
    intro m
    have hrepr : toString (Int.negSucc m) = "-" ++ Nat.repr (m + 1) := rfl
    rw [hrepr, String.toList_append, Nat.repr]
    simp
  have hsign : ∀ m n : ℕ, Nat.toDigits 10 m ≠ '-' :: Nat.toDigits 10 n := by
    intro m n h
    have hmem : '-' ∈ Nat.toDigits 10 m := h ▸ List.mem_cons_self
    exact absurd (isDigit_of_mem_toDigits hmem) (by decide)
  intro a b h
  have hlists := congrArg String.toList h
  cases a with
  | ofNat m =>
      cases b with
      | ofNat n =>
          rw [hnat, hnat] at hlists
          rw [toDigits_injective hlists]
      | negSucc n =>
          rw [hnat, hneg] at hlists
          exact absurd hlists (hsign m (n + 1))
  | negSucc m =>
      cases b with
      | ofNat n =>
          rw [hneg, hnat] at hlists
          exact absurd hlists.symm (hsign n (m + 1))
      | negSucc n =>
          rw [hneg, hneg, List.cons.injEq] at hlists
          rw [Nat.succ.inj (toDigits_injective hlists.2)]

theorem notMem_toString_int (hc : c.isDigit = false) (hsign : c ≠ '-') (n : ℤ) :
    c ∉ (toString n).toList := by
  have hdigits : ∀ m : ℕ, c ∉ (Nat.repr m).toList := by
    intro m hmem
    rw [Nat.repr, String.toList_ofList] at hmem
    rw [isDigit_of_mem_toDigits hmem] at hc
    exact absurd hc (by decide)
  cases n with
  | ofNat m => exact hdigits m
  | negSucc m =>
      intro hmem
      have hrepr : toString (Int.negSucc m) = "-" ++ Nat.repr (m + 1) := rfl
      rw [hrepr, String.toList_append, List.mem_append] at hmem
      rcases hmem with hmem | hmem
      · exact hsign (by simpa using hmem)
      · exact hdigits (m + 1) hmem

/-- What stands before the first colon of a text. -/
theorem takeWhile_ne_append_cons {head rest : List Char} (h : c ∉ head) :
    (head ++ c :: rest).takeWhile (· ≠ c) = head := by
  rw [List.takeWhile_append_of_pos, List.takeWhile_cons_of_neg (by simp), List.append_nil]
  intro d hd
  exact decide_eq_true (fun hdc => h (hdc ▸ hd))

end Decimal
