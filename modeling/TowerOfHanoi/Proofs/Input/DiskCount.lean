import Mathlib.Data.Nat.Digits.Defs
import TowerOfHanoi.Proofs.Text.Quoting
import TowerOfHanoi.Proofs.Text.Trimming
import TowerOfHanoi.PuzzleText

/-!
# The number of disks by its value

The number of disks is read digit by digit, and the number so far may not exceed what 64 bits hold.
Whatever the length of a whole number, the result is decided by the value that it has by the places
of its digits: up to 64 disks are accepted, and a number that does not fit 64 bits is refused as any
other number beyond the limit is.

Reading stops at what comes first: a number that is too large, or a character that is not a digit.
So a token that is no whole number is refused as such only if the digits at its front fit 64 bits.
Otherwise it is refused as a whole number would be, whatever follows these digits, controls
included.

## Main definitions

* `placeValue`: the number that digits denote by their places.
* `WholeNumber`: a token is an optional sign and digits, and has a value.
* `Scan`: the sign and the digits at the front of a token, as many as there are, and the rest.

## Main results

* `parseDisks_eq`: the result of reading a token, from its sign, its digits and its rest.
* `parseDisks_by_value`: whole numbers are judged by their value.
* `parseDisks_of_not_wholeNumber`: what is refused as no whole number.
-/

namespace TowerOfHanoi

/-! ### Whole numbers and other tokens -/

/-- The sign in front of digits. -/
inductive Sign
  /-- There is no sign. -/
  | absent
  /-- The sign is `+`. -/
  | plus
  /-- The sign is `-`. -/
  | minus

namespace Sign

/-- The sign as it is written. -/
def chars : Sign → List Char
  | absent => []
  | plus => ['+']
  | minus => ['-']

/-- Whether the sign makes the number of its digits negative. -/
def isNegative : Sign → Bool
  | minus => true
  | _ => false

/-- The number that digits denote behind the sign. -/
def signed : Sign → Nat → Int
  | minus, value => -value
  | _, value => value

/-- The largest number whose digits can stand behind the sign of a signed number of 64 bits. -/
def bound : Sign → Nat
  | minus => maxInt64 + 1
  | _ => maxInt64

/-- The refusal of digits above the bound. -/
def excess (numeral : String) : Sign → InputError
  | minus => .negativeDisks numeral
  | _ => .tooManyDisks numeral Puzzle.maxDisks

/-- A sign makes all numbers negative but zero. -/
theorem signed_neg_iff (sign : Sign) (value : Nat) :
    sign.signed value < 0 ↔ (sign.isNegative && value != 0) = true := by
  cases sign <;> simp [signed, isNegative, Nat.pos_iff_ne_zero]

theorem signed_of_not_neg {sign : Sign} {value : Nat} (hnegative : ¬ sign.signed value < 0) :
    sign.signed value = value := by
  cases sign with
  | absent => rfl
  | plus => rfl
  | minus =>
    simp only [signed] at hnegative ⊢
    omega

/-- Digits above the bound are refused for what their number is. -/
theorem excess_eq {sign : Sign} {value : Nat} (hpos : 0 < value) (numeral : String) :
    sign.excess numeral =
      if sign.signed value < 0 then .negativeDisks numeral
      else .tooManyDisks numeral Puzzle.maxDisks := by
  have hnonneg : ¬ (value : Int) < 0 := Int.not_lt.mpr (Int.natCast_nonneg value)
  cases sign <;> simp [excess, signed, hpos, hnonneg]

end Sign

/-- The number that decimal digits denote by their places. -/
def placeValue (digits : List Char) : Nat :=
  Nat.ofDigits 10 (digits.reverse.map fun c => c.toNat - '0'.toNat)

/-- A token is a whole number: at most one sign and then digits, at least one. Its value may be of
any size. -/
inductive WholeNumber : List Char → Int → Prop
  /-- A sign and digits. -/
  | intro {sign : Sign} {digits : List Char} (nonempty : digits ≠ [])
      (isDigit : ∀ c ∈ digits, c.isDigit = true) :
      WholeNumber (sign.chars ++ digits) (sign.signed (placeValue digits))

/-- A token is taken apart into its sign, the digits that follow, as many as there are, and the
rest. -/
structure Scan (token : List Char) (sign : Sign) (digits rest : List Char) : Prop where
  /-- They make up the token. -/
  eq : token = sign.chars ++ (digits ++ rest)
  /-- The digits are digits. -/
  isDigit : ∀ c ∈ digits, c.isDigit = true
  /-- The rest does not begin with one. -/
  stop : ∀ c ∈ rest.head?, c.isDigit = false
  /-- No sign is left out. -/
  unsigned : sign = .absent → ∀ c ∈ (digits ++ rest).head?, c ≠ '+' ∧ c ≠ '-'

theorem ne_sign_of_isDigit {c : Char} (hdigit : c.isDigit = true) : c ≠ '+' ∧ c ≠ '-' := by
  constructor <;> rintro rfl <;> revert hdigit <;> decide

/-- Every token can be taken apart. -/
theorem exists_scan (token : List Char) : ∃ sign digits rest, Scan token sign digits rest := by
  have hbody (sign : Sign) (body : List Char) (heq : token = sign.chars ++ body)
      (unsigned : sign = .absent → ∀ c ∈ body.head?, c ≠ '+' ∧ c ≠ '-') :
      ∃ sign digits rest, Scan token sign digits rest := by
    have hsplit : body.takeWhile Char.isDigit ++ body.dropWhile Char.isDigit = body :=
      List.takeWhile_append_dropWhile
    refine ⟨sign, body.takeWhile Char.isDigit, body.dropWhile Char.isDigit, ?_,
      fun c => List.mem_takeWhile_imp, fun c hc => ?_, ?_⟩
    · rw [hsplit, heq]
    · have hhead := List.head?_dropWhile_not Char.isDigit body
      rwa [Option.mem_def.mp hc] at hhead
    · rwa [hsplit]
  cases token with
  | nil => exact hbody .absent [] rfl (by simp)
  | cons c body =>
    by_cases hplus : c = '+'
    · exact hbody .plus body (by rw [hplus]; rfl) (fun h => nomatch h)
    · by_cases hminus : c = '-'
      · exact hbody .minus body (by rw [hminus]; rfl) (fun h => nomatch h)
      · exact hbody .absent (c :: body) rfl (by simp [hplus, hminus])

/-- Where there are digits, it does not have to be said that no sign is left out. -/
theorem Scan.of_ne_nil {token : List Char} {sign : Sign} {digits rest : List Char}
    (eq : token = sign.chars ++ (digits ++ rest)) (nonempty : digits ≠ [])
    (isDigit : ∀ c ∈ digits, c.isDigit = true) (stop : ∀ c ∈ rest.head?, c.isDigit = false) :
    Scan token sign digits rest := by
  refine ⟨eq, isDigit, stop, fun _ c hc => ?_⟩
  obtain ⟨first, others, rfl⟩ := List.exists_cons_of_ne_nil nonempty
  obtain rfl : first = c := Option.some.inj hc
  exact ne_sign_of_isDigit (isDigit first List.mem_cons_self)

/-- A whole number is taken apart with nothing left. -/
theorem WholeNumber.exists_scan {token : List Char} {value : Int}
    (hnumber : WholeNumber token value) :
    ∃ sign digits, Scan token sign digits [] ∧ digits ≠ [] ∧
      value = sign.signed (placeValue digits) := by
  cases hnumber with
  | @intro sign digits nonempty isDigit =>
    have heq : sign.chars ++ digits = sign.chars ++ (digits ++ []) := by rw [List.append_nil]
    exact ⟨sign, digits, .of_ne_nil heq nonempty isDigit (by simp), nonempty, rfl⟩

/-- No other characters are in a whole number than those of its sign and its digits. -/
theorem WholeNumber.of_mem {token : List Char} {value : Int} (hnumber : WholeNumber token value)
    {c : Char} (hc : c ∈ token) : c = '+' ∨ c = '-' ∨ c.isDigit = true := by
  cases hnumber with
  | @intro sign digits nonempty isDigit =>
    rcases List.mem_append.mp hc with hsign | hdigits
    · cases sign <;> simp_all [Sign.chars]
    · exact .inr (.inr (isDigit c hdigits))

namespace Scan

variable {token : List Char} {sign : Sign} {digits rest : List Char}

theorem wholeNumber (hscan : Scan token sign digits []) (nonempty : digits ≠ []) :
    WholeNumber token (sign.signed (placeValue digits)) := by
  rw [hscan.eq, List.append_nil]
  exact .intro nonempty hscan.isDigit

/-- Where the token is no whole number, there are no digits or there is something behind them. -/
theorem of_not_wholeNumber (hscan : Scan token sign digits rest)
    (hnumber : ¬ ∃ value, WholeNumber token value) : digits = [] ∨ rest ≠ [] := by
  by_contra hnone
  obtain ⟨nonempty, hrest⟩ := not_or.mp hnone
  obtain rfl := not_not.mp hrest
  exact hnumber ⟨_, hscan.wholeNumber nonempty⟩

end Scan

/-! ### Reading digits -/

/-- The places of the digits give the number that is found by reading them from left to right. -/
theorem placeValue_eq_ofDigitChars (digits : List Char) :
    placeValue digits = Nat.ofDigitChars 10 digits 0 := by
  rw [placeValue, Nat.ofDigits_eq_foldr, List.map_reverse, List.foldr_reverse, List.foldl_map,
    Nat.ofDigitChars_eq_foldl]
  simp [Nat.add_comm]

section Digits

variable {bound value : Nat} {digits rest : List Char}

/-- The number grows with every digit. -/
theorem le_ofDigitChars (digits : List Char) (value : Nat) :
    value ≤ Nat.ofDigitChars 10 digits value := by
  induction digits generalizing value with
  | nil => exact Nat.le_refl value
  | cons c digits ih =>
    rw [Nat.ofDigitChars_cons]
    have hgrown := ih (10 * value + (c.toNat - '0'.toNat))
    omega

/-- Digits within the bound are read, and the rest is read on from their number. -/
theorem readDigits_of_le (isDigit : ∀ c ∈ digits, c.isDigit = true)
    (hle : Nat.ofDigitChars 10 digits value ≤ bound) :
    readDigits bound value (digits ++ rest) =
      readDigits bound (Nat.ofDigitChars 10 digits value) rest := by
  induction digits generalizing value with
  | nil => rfl
  | cons c digits ih =>
    rw [List.forall_mem_cons] at isDigit
    rw [Nat.ofDigitChars_cons] at hle ⊢
    have hnext := (le_ofDigitChars digits _).trans hle
    rw [List.cons_append, readDigits, digitValue_of_isDigit isDigit.1]
    exact (if_pos hnext).trans (ih isDigit.2 hle)

/-- Digits above the bound are refused, whatever follows them. -/
theorem readDigits_of_lt (isDigit : ∀ c ∈ digits, c.isDigit = true) (hvalue : value ≤ bound)
    (hlt : bound < Nat.ofDigitChars 10 digits value) :
    readDigits bound value (digits ++ rest) = .error .aboveBound := by
  induction digits generalizing value with
  | nil => exact absurd hlt (Nat.not_lt.mpr hvalue)
  | cons c digits ih =>
    rw [List.forall_mem_cons] at isDigit
    rw [Nat.ofDigitChars_cons] at hlt
    rw [List.cons_append, readDigits, digitValue_of_isDigit isDigit.1]
    by_cases hnext : 10 * value + (c.toNat - '0'.toNat) ≤ bound
    · exact (if_pos hnext).trans (ih isDigit.2 hnext hlt)
    · exact if_neg hnext

/-- What comes first decides: digits above the bound, or a character that is not a digit. -/
theorem readNatural_eq (isDigit : ∀ c ∈ digits, c.isDigit = true)
    (stop : ∀ c ∈ rest.head?, c.isDigit = false) :
    readNatural bound (digits ++ rest) =
      if bound < placeValue digits then .error .aboveBound
      else if digits = [] ∨ rest ≠ [] then .error .notDigits
      else .ok (placeValue digits) := by
  rw [placeValue_eq_ofDigitChars, readNatural]
  by_cases hempty : digits ++ rest = []
  · obtain ⟨rfl, rfl⟩ := List.append_eq_nil_iff.mp hempty
    rfl
  rw [if_neg (by simpa using hempty)]
  split_ifs with hlt hnone
  · exact readDigits_of_lt isDigit (Nat.zero_le _) hlt
  · rw [readDigits_of_le isDigit (Nat.not_lt.mp hlt)]
    cases rest with
    | nil => exact absurd hnone (by simpa using hempty)
    | cons c rest => rw [readDigits, digitValue_of_not_isDigit (stop c rfl)]
  · obtain ⟨-, hrest⟩ := not_or.mp hnone
    obtain rfl := not_not.mp hrest
    rw [readDigits_of_le isDigit (Nat.not_lt.mp hlt), readDigits]

end Digits

/-! ### Reading tokens -/

theorem Scan.readSigned_eq {token digits rest : List Char} {sign : Sign}
    (hscan : Scan token sign digits rest) :
    readSigned token = (sign.isNegative, readNatural sign.bound (digits ++ rest)) := by
  have hunsigned := hscan.unsigned
  rw [hscan.eq]
  cases sign with
  | plus => rfl
  | minus => rfl
  | absent =>
    unfold readSigned
    split
    · rename_i hminus
      exact absurd rfl (hunsigned rfl '-' (congrArg List.head? hminus)).2
    · rename_i hplus
      exact absurd rfl (hunsigned rfl '+' (congrArg List.head? hplus)).1
    · rfl

/-- **The result of reading a token**, from its sign, the digits behind the sign and the rest. -/
theorem parseDisks_eq {token : String} {sign : Sign} {digits rest : List Char}
    (hscan : Scan (Text.trim token).toList sign digits rest) :
    parseDisks token =
      if sign.bound < placeValue digits then .error (sign.excess (Text.trim token))
      else if digits = [] ∨ rest ≠ [] then .error (.invalidDisks token)
      else if sign.signed (placeValue digits) < 0 then .error (.negativeDisks (Text.trim token))
      else if placeValue digits ≤ 64 then .ok (UInt32.ofNat (placeValue digits))
      else .error (.tooManyDisks (Text.trim token) Puzzle.maxDisks) := by
  simp only [parseDisks, hscan.readSigned_eq, readNatural_eq hscan.isDigit hscan.stop]
  by_cases hlt : sign.bound < placeValue digits
  · rw [if_pos hlt, if_pos hlt]
    cases sign <;> rfl
  by_cases hnone : digits = [] ∨ rest ≠ []
  · rw [if_neg hlt, if_neg hlt, if_pos hnone, if_pos hnone]
  · rw [if_neg hlt, if_neg hlt, if_neg hnone, if_neg hnone,
      if_congr (sign.signed_neg_iff _) rfl rfl]
    rfl

/-! ### Whole numbers by their value -/

/-- The result of reading a whole number, from its value. -/
theorem parseDisks_of_wholeNumber {token : String} {value : Int}
    (hnumber : WholeNumber (Text.trim token).toList value) :
    parseDisks token =
      if value < 0 then .error (.negativeDisks (Text.trim token))
      else if value ≤ 64 then .ok (UInt32.ofNat value.toNat)
      else .error (.tooManyDisks (Text.trim token) Puzzle.maxDisks) := by
  obtain ⟨sign, digits, hscan, nonempty, rfl⟩ := hnumber.exists_scan
  have hbound : 64 < sign.bound := by cases sign <;> decide
  rw [parseDisks_eq hscan, if_neg (c := digits = [] ∨ _) (by simpa using nonempty)]
  by_cases hlt : sign.bound < placeValue digits
  · rw [if_pos hlt, @Sign.excess_eq sign (placeValue digits) (by omega)]
    split_ifs with hnegative hle
    · rfl
    · rw [Sign.signed_of_not_neg hnegative] at hle
      omega
    · rfl
  · rw [if_neg hlt]
    by_cases hnegative : sign.signed (placeValue digits) < 0
    · rw [if_pos hnegative, if_pos hnegative]
    · have hlimit : sign.signed (placeValue digits) ≤ 64 ↔ placeValue digits ≤ 64 := by
        rw [Sign.signed_of_not_neg hnegative]
        omega
      rw [if_neg hnegative, if_neg hnegative, if_congr hlimit rfl rfl,
        Sign.signed_of_not_neg hnegative, Int.toNat_natCast]

/-- **A whole number is judged by its value.** Every token has one part that is left without the
blanks around it. If this part is a whole number, of any length and with any zeros in front, then
its value is the result if and only if it is from zero to the limit of 64; the part is refused as
negative if and only if its value is, and as too large if and only if its value is above the limit.
If the part is no whole number, the token is refused. -/
theorem parseDisks_by_value (token : String) :
    ∃ core, (∀ part, Text.Trimmed token part ↔ part = core) ∧
      (∀ value, WholeNumber core.toList value →
        ((∃ disks, parseDisks token = .ok disks ∧ (disks.toNat : Int) = value) ↔
          0 ≤ value ∧ value ≤ 64) ∧
        (parseDisks token = .error (.negativeDisks core) ↔ value < 0) ∧
        (parseDisks token = .error (.tooManyDisks core 64) ↔ 64 < value)) ∧
      ((¬ ∃ value, WholeNumber core.toList value) → ∃ fault, parseDisks token = .error fault) := by
  refine ⟨Text.trim token, fun part => Text.trimmed_iff, fun value hnumber => ?_,
    fun hnumber => ?_⟩
  · rw [parseDisks_of_wholeNumber hnumber]
    rcases lt_or_ge value 0 with hnegative | hnonneg
    · rw [if_pos hnegative]
      exact ⟨iff_of_false (by simp) (by omega), iff_of_true rfl hnegative,
        iff_of_false (by simp) (by omega)⟩
    rw [if_neg (Int.not_lt.mpr hnonneg)]
    rcases lt_or_ge 64 value with hlarge | hle
    · rw [if_neg (Int.not_le.mpr hlarge)]
      exact ⟨iff_of_false (by simp) (by omega), iff_of_false (by simp) (by omega),
        iff_of_true rfl hlarge⟩
    · have hsmall : value.toNat < UInt32.size := by
        change value.toNat < 4294967296
        omega
      have hdisks : ((UInt32.ofNat value.toNat).toNat : Int) = value := by
        rw [UInt32.toNat_ofNat_of_lt' hsmall, Int.toNat_of_nonneg hnonneg]
      rw [if_pos hle]
      exact ⟨iff_of_true ⟨_, rfl, hdisks⟩ ⟨hnonneg, hle⟩, iff_of_false (by simp) (by omega),
        iff_of_false (by simp) (by omega)⟩
  · obtain ⟨sign, digits, rest, hscan⟩ := exists_scan (Text.trim token).toList
    have hnone := hscan.of_not_wholeNumber hnumber
    rw [parseDisks_eq hscan]
    split_ifs
    · exact ⟨_, rfl⟩
    · exact ⟨_, rfl⟩

/-- Numbers beyond 64 bits at either end, and zeros that do not matter. -/
theorem parseDisks_by_value_ends :
    parseDisks "\t-9223372036854775809\u2003" = .error (.negativeDisks "-9223372036854775809") ∧
    parseDisks "+18446744073709551680" = .error (.tooManyDisks "+18446744073709551680" 64) ∧
    (∃ disks, parseDisks "-00000000000000000000000" = .ok disks ∧ (disks.toNat : Int) = 0) ∧
    ∃ fault, parseDisks "6_4" = .error fault := by
  have hlow : WholeNumber "-9223372036854775809".toList (-9223372036854775809) :=
    @WholeNumber.intro .minus "9223372036854775809".toList (by decide)
      (List.all_eq_true.mp (by decide))
  have hhigh : WholeNumber "+18446744073709551680".toList 18446744073709551680 :=
    @WholeNumber.intro .plus "18446744073709551680".toList (by decide)
      (List.all_eq_true.mp (by decide))
  have hzero : WholeNumber "-00000000000000000000000".toList 0 :=
    @WholeNumber.intro .minus "00000000000000000000000".toList (by decide)
      (List.all_eq_true.mp (by decide))
  have hnone : ¬ ∃ value, WholeNumber "6_4".toList value := by
    rintro ⟨value, hnumber⟩
    exact absurd (hnumber.of_mem (c := '_') (by decide)) (by decide)
  refine ⟨?_, ?_, ?_, ?_⟩
  · obtain ⟨core, hcore, hvalue, -⟩ := parseDisks_by_value "\t-9223372036854775809\u2003"
    obtain rfl := (hcore "-9223372036854775809").mp
      (Text.trimmed_iff.mpr (by decide +kernel))
    exact (hvalue _ hlow).2.1.mpr (by decide)
  · obtain ⟨core, hcore, hvalue, -⟩ := parseDisks_by_value "+18446744073709551680"
    obtain rfl := (hcore "+18446744073709551680").mp
      (Text.trimmed_iff.mpr (by decide +kernel))
    exact (hvalue _ hhigh).2.2.mpr (by decide)
  · obtain ⟨core, hcore, hvalue, -⟩ := parseDisks_by_value "-00000000000000000000000"
    obtain rfl := (hcore "-00000000000000000000000").mp
      (Text.trimmed_iff.mpr (by decide +kernel))
    exact (hvalue _ hzero).1.mpr (by decide)
  · obtain ⟨core, hcore, -, hfault⟩ := parseDisks_by_value "6_4"
    obtain rfl := (hcore "6_4").mp
      (Text.trimmed_iff.mpr (by decide +kernel))
    exact hfault hnone

/-! ### Tokens that are no whole numbers -/

theorem isControl_of_isDigit {c : Char} (hdigit : c.isDigit = true) : Text.isControl c = false := by
  rw [Char.isDigit, Bool.and_eq_true, decide_eq_true_eq, decide_eq_true_eq] at hdigit
  have hfirst : 48 ≤ c.toNat := UInt32.le_iff_toNat_le.mp hdigit.1
  have hlast : c.toNat ≤ 57 := UInt32.le_iff_toNat_le.mp hdigit.2
  rw [Text.isControl, Bool.or_eq_false_iff, Bool.and_eq_false_iff, decide_eq_false_iff_not,
    decide_eq_false_iff_not, decide_eq_false_iff_not]
  omega

theorem WholeNumber.controlFree {text : String} {value : Int}
    (hnumber : WholeNumber text.toList value) : Text.ControlFree text := by
  intro c hc
  rcases hnumber.of_mem hc with rfl | rfl | hdigit
  · decide
  · decide
  · exact isControl_of_isDigit hdigit

theorem WholeNumber.controlFree_negativeDisks {text : String} {value : Int}
    (hnumber : WholeNumber text.toList value) :
    Text.ControlFree (InputError.negativeDisks text).message := by
  change Text.ControlFree ("Disk count cannot be negative, got " ++ text)
  rw [Text.controlFree_append]
  exact ⟨by decide +kernel, hnumber.controlFree⟩

theorem WholeNumber.controlFree_tooManyDisks {text : String} {value : Int}
    (hnumber : WholeNumber text.toList value) :
    Text.ControlFree (InputError.tooManyDisks text Puzzle.maxDisks).message := by
  change Text.ControlFree ("Disk count " ++ text ++ " exceeds the maximum of " ++ toString 64)
  rw [Text.controlFree_append, Text.controlFree_append, Text.controlFree_append]
  exact ⟨⟨⟨by decide +kernel, hnumber.controlFree⟩, by decide +kernel⟩, by decide +kernel⟩

/-- What is quoted may be any text. -/
theorem controlFree_invalidDisks (token : String) :
    Text.ControlFree (InputError.invalidDisks token).message := by
  change Text.ControlFree ("Disk count must be a whole number, got " ++ Text.quoteString token)
  rw [Text.controlFree_append]
  exact ⟨by decide +kernel, Text.controlFree_quoteString token⟩

/-- A token that is no whole number is refused as such if its digits fit 64 bits. -/
theorem Scan.parseDisks_eq_invalid {token : String} {sign : Sign} {digits rest : List Char}
    (hscan : Scan (Text.trim token).toList sign digits rest)
    (hfits : placeValue digits ≤ sign.bound ∨ rest = [])
    (hnumber : ¬ ∃ value, WholeNumber (Text.trim token).toList value) :
    parseDisks token = .error (.invalidDisks token) := by
  have hnone := hscan.of_not_wholeNumber hnumber
  have hle : placeValue digits ≤ sign.bound := by
    rcases hfits with hle | rfl
    · exact hle
    · obtain rfl : digits = [] := by simpa using hnone
      exact Nat.zero_le _
  rw [parseDisks_eq hscan, if_neg (Nat.not_lt.mpr hle), if_pos hnone]

/-- Then only whole numbers are refused in another way, and these as they are. -/
theorem Scan.eq_of_parseDisks_eq_error {token : String} {sign : Sign} {digits rest : List Char}
    {fault : InputError} (hscan : Scan (Text.trim token).toList sign digits rest)
    (hfits : placeValue digits ≤ sign.bound ∨ rest = [])
    (hfault : parseDisks token = .error fault) :
    fault = .invalidDisks token ∨
      (∃ value, WholeNumber (Text.trim token).toList value) ∧
        (fault = .negativeDisks (Text.trim token) ∨
          fault = .tooManyDisks (Text.trim token) Puzzle.maxDisks) := by
  by_cases hnumber : ∃ value, WholeNumber (Text.trim token).toList value
  · obtain ⟨value, hvalue⟩ := hnumber
    rw [parseDisks_of_wholeNumber hvalue] at hfault
    refine .inr ⟨⟨value, hvalue⟩, ?_⟩
    split_ifs at hfault
    · exact .inl (Except.error.inj hfault).symm
    · exact .inr (Except.error.inj hfault).symm
  · rw [hscan.parseDisks_eq_invalid hfits hnumber] at hfault
    exact .inl (Except.error.inj hfault).symm

/-- **A token that is no whole number is refused as such if its digits fit 64 bits.** Every token
has one part that is left without the blanks around it, which can be taken apart into a sign, the
digits behind it and the rest. Unless something follows digits that do not fit 64 bits, a part that
is no whole number is refused as such, and the token is quoted as it was given; only whole numbers
are refused as negative or as too large; and no message has a control in it. If something does
follow such digits, then the part is refused as a whole number would be, and shown as it is. -/
theorem parseDisks_of_not_wholeNumber (token : String) :
    ∃ core, (∀ part, Text.Trimmed token part ↔ part = core) ∧
      (∃ sign digits rest, Scan core.toList sign digits rest) ∧
      ∀ sign digits rest, Scan core.toList sign digits rest →
        (placeValue digits ≤ sign.bound ∨ rest = [] →
          ((¬ ∃ value, WholeNumber core.toList value) →
            parseDisks token = .error (.invalidDisks token)) ∧
          (∀ carried, parseDisks token = .error (.negativeDisks carried) ∨
            (∃ max, parseDisks token = .error (.tooManyDisks carried max)) →
              ∃ value, WholeNumber carried.toList value) ∧
          ∀ fault, parseDisks token = .error fault → Text.ControlFree fault.message) ∧
        (sign.bound < placeValue digits → rest ≠ [] →
          parseDisks token = .error (sign.excess core)) := by
  refine ⟨Text.trim token, fun part => Text.trimmed_iff, exists_scan _,
    fun sign digits rest hscan => ⟨fun hfits => ⟨hscan.parseDisks_eq_invalid hfits,
      fun carried hcarried => ?_, fun fault hfault => ?_⟩, fun hlt _ => ?_⟩⟩
  · rcases hcarried with hnegative | ⟨max, hlarge⟩
    · rcases hscan.eq_of_parseDisks_eq_error hfits hnegative with heq | ⟨hnumber, heq | heq⟩
      · cases heq
      · cases heq
        exact hnumber
      · cases heq
    · rcases hscan.eq_of_parseDisks_eq_error hfits hlarge with heq | ⟨hnumber, heq | heq⟩
      · cases heq
      · cases heq
      · cases heq
        exact hnumber
  · obtain rfl | ⟨⟨value, hnumber⟩, rfl | rfl⟩ := hscan.eq_of_parseDisks_eq_error hfits hfault
    · exact controlFree_invalidDisks token
    · exact hnumber.controlFree_negativeDisks
    · exact hnumber.controlFree_tooManyDisks
  · rw [parseDisks_eq hscan, if_pos hlt]

/-- The largest number of 64 bits and the next one, each with a character behind it. -/
theorem parseDisks_of_not_wholeNumber_last :
    parseDisks " 9223372036854775807x" = .error (.invalidDisks " 9223372036854775807x") ∧
    parseDisks " 9223372036854775808x" =
      .error (.tooManyDisks "9223372036854775808x" Puzzle.maxDisks) := by
  constructor
  · obtain ⟨core, hcore, -, hresult⟩ := parseDisks_of_not_wholeNumber " 9223372036854775807x"
    obtain rfl := (hcore "9223372036854775807x").mp
      (Text.trimmed_iff.mpr (by decide +kernel))
    have hscan : Scan "9223372036854775807x".toList .absent "9223372036854775807".toList ['x'] :=
      .of_ne_nil (by decide) (by decide) (List.all_eq_true.mp (by decide)) (by rintro _ ⟨⟩; decide)
    refine ((hresult _ _ _ hscan).1 (.inl (by decide))).1 ?_
    rintro ⟨value, hnumber⟩
    exact absurd (hnumber.of_mem (c := 'x') (by decide)) (by decide)
  · obtain ⟨core, hcore, -, hresult⟩ := parseDisks_of_not_wholeNumber " 9223372036854775808x"
    obtain rfl := (hcore "9223372036854775808x").mp
      (Text.trimmed_iff.mpr (by decide +kernel))
    have hscan : Scan "9223372036854775808x".toList .absent "9223372036854775808".toList ['x'] :=
      .of_ne_nil (by decide) (by decide) (List.all_eq_true.mp (by decide)) (by rintro _ ⟨⟩; decide)
    exact (hresult _ _ _ hscan).2 (by decide) (by decide)

/-- Digits that do not fit 64 bits keep what follows them from being seen. -/
theorem parseDisks_shows_rest :
    (¬ ∃ value, WholeNumber "99999999999999999999x".toList value) ∧
    parseDisks "99999999999999999999x" = .error (.tooManyDisks "99999999999999999999x" 64) ∧
    (¬ ∃ value, WholeNumber "-99999999999999999999\x1b".toList value) ∧
    parseDisks "-99999999999999999999\x1b" = .error (.negativeDisks "-99999999999999999999\x1b") ∧
    ¬ Text.ControlFree (InputError.negativeDisks "-99999999999999999999\x1b").message := by
  refine ⟨?_, by decide +kernel, ?_, by decide +kernel, by decide +kernel⟩
  · rintro ⟨value, hnumber⟩
    exact absurd (hnumber.of_mem (c := 'x') (by decide)) (by decide)
  · rintro ⟨value, hnumber⟩
    exact absurd (hnumber.of_mem (c := '\x1b') (by decide)) (by decide)

end TowerOfHanoi
