import Sqrkal.Foundation.Word

/-! # Text in byte strings

Decimal output with `snprintf`, input with `atoi`, and the comma-separated
fields of a byte string.
-/

namespace Sqrkal.Foundation

/-- The bytes of a string literal. -/
def text (s : String) : List Byte := s.toList.map fun c => BitVec.ofNat 8 c.toNat

def isDigit (b : Byte) : Bool := 48 ≤ b.toNat && b.toNat ≤ 57

def isSpace (b : Byte) : Bool := b.toNat == 32 || 9 ≤ b.toNat && b.toNat ≤ 13

def digitsValue (s : List Byte) : ℕ := s.foldl (fun v b => 10 * v + (b.toNat - 48)) 0

/-- The digits of a natural number, most significant first. -/
def decimalNat (n : ℕ) : List Byte := (Nat.toDigits 10 n).map fun c => BitVec.ofNat 8 c.toNat

/-- The conversion `%d`. -/
def decimal (z : ℤ) : List Byte :=
  if 0 ≤ z then decimalNat z.toNat else 45#8 :: decimalNat (-z).toNat

/-- The text `snprintf` leaves in a buffer of the given size. -/
def snprintf (size : ℕ) (s : List Byte) : List Byte := s.take (size - 1)

/-- The number at the start of a text: white space, a sign, digits. A NUL ends it like
any other byte that is not a digit. -/
def leadingInt (s : List Byte) : ℤ :=
  let s := s.dropWhile isSpace
  let digits (s : List Byte) : ℤ := digitsValue (s.takeWhile isDigit)
  if s.head? = some 45#8 then -digits s.tail
  else if s.head? = some 43#8 then digits s.tail
  else digits s

/-- `atoi`: the value saturates as a `long` and is then cut to an `int`. -/
def atoi (s : List Byte) : ℤ :=
  (max (-2 ^ 63) (min (leadingInt s) (2 ^ 63 - 1))).bmod (2 ^ 32)

/-- The text before the first comma, or all of it. -/
def firstField (s : List Byte) : List Byte := s.takeWhile (· ≠ 44#8)

/-- The text after the first comma. When there is none the position one past
`npos` is the start again. -/
def afterComma (s : List Byte) : List Byte :=
  if 44#8 ∈ s then (s.dropWhile (· ≠ 44#8)).drop 1 else s

theorem charByte_toNat {c : Char} (h : c.isDigit) : (BitVec.ofNat 8 c.toNat).toNat = c.toNat := by
  simp only [Char.isDigit, Bool.and_eq_true, decide_eq_true_eq] at h
  have h9 : c.val.toNat ≤ 57 := h.2
  rw [BitVec.toNat_ofNat]
  exact Nat.mod_eq_of_lt (lt_of_le_of_lt h9 (by norm_num))

theorem isDigit_charByte {c : Char} (h : c.isDigit) : isDigit (BitVec.ofNat 8 c.toNat) := by
  have hn := charByte_toNat h
  simp only [Char.isDigit, Bool.and_eq_true, decide_eq_true_eq] at h
  have h0 : 48 ≤ c.val.toNat := h.1
  have h9 : c.val.toNat ≤ 57 := h.2
  simp only [isDigit, hn, Bool.and_eq_true, decide_eq_true_eq]
  exact ⟨h0, h9⟩

theorem isDigit_of_mem_decimalNat {n : ℕ} {b : Byte} (h : b ∈ decimalNat n) : isDigit b := by
  rcases List.mem_map.mp h with ⟨c, hc, rfl⟩
  exact isDigit_charByte (Nat.isDigit_of_mem_toDigits (by norm_num) (by norm_num) hc)

theorem decimalNat_ne_nil (n : ℕ) : decimalNat n ≠ [] := by
  simp [decimalNat, Nat.toDigits_ne_nil]

theorem decimalNat_length_le {n k : ℕ} (hk : 0 < k) (h : n < 10 ^ k) :
    (decimalNat n).length ≤ k := by
  rw [decimalNat, List.length_map]
  exact (Nat.length_toDigits_le_iff (by norm_num) hk).mpr h

/-- Reading the digits back gives the number. -/
theorem digitsValue_decimalNat (n : ℕ) : digitsValue (decimalNat n) = n := by
  have hfold (cs : List Char) (hd : ∀ c ∈ cs, c.isDigit) (v : ℕ) :
      (cs.map fun c => BitVec.ofNat 8 c.toNat).foldl (fun v (b : Byte) => 10 * v + (b.toNat - 48)) v =
        Nat.ofDigitChars 10 cs v := by
    induction cs generalizing v with
    | nil => rfl
    | cons c cs ih =>
      rw [List.map_cons, List.foldl_cons, ih (fun c' h => hd c' (List.mem_cons_of_mem _ h)),
        charByte_toNat (hd c List.mem_cons_self), Nat.ofDigitChars_cons]
      rfl
  rw [digitsValue, decimalNat,
    hfold _ (fun c h => Nat.isDigit_of_mem_toDigits (by norm_num) (by norm_num) h),
    Nat.ofDigitChars_ten_toDigits]

theorem isDigit_not_isSpace {b : Byte} (h : isDigit b) : isSpace b = false := by
  simp only [isDigit, isSpace, Bool.and_eq_true, decide_eq_true_eq] at *
  simp only [Bool.or_eq_false_iff, beq_eq_false_iff_ne, Bool.and_eq_false_iff,
    decide_eq_false_iff_not]
  omega

/-- A number is read up to the first byte that is not a digit. -/
theorem leadingInt_decimalNat (n : ℕ) {rest : List Byte} (h : ∀ b ∈ rest.head?, isDigit b = false) :
    leadingInt (decimalNat n ++ rest) = n := by
  obtain ⟨b, bs, hb⟩ := List.exists_cons_of_ne_nil (decimalNat_ne_nil n)
  have hd : isDigit b := isDigit_of_mem_decimalNat (by rw [hb]; exact List.mem_cons_self)
  have hspace : (decimalNat n ++ rest).dropWhile isSpace = decimalNat n ++ rest := by
    rw [hb, List.cons_append, List.dropWhile_cons_of_neg (by simp [isDigit_not_isSpace hd])]
  have hne (c : Byte) (hc : isDigit c = false) : (decimalNat n ++ rest).head? ≠ some c := by
    rw [hb, List.cons_append, List.head?_cons, Ne, Option.some.injEq]
    rintro rfl
    rw [hd] at hc
    exact absurd hc (by decide)
  have htake : (decimalNat n ++ rest).takeWhile isDigit = decimalNat n := by
    rw [List.takeWhile_append_of_pos fun c hc => isDigit_of_mem_decimalNat hc]
    cases rest with
    | nil => simp
    | cons c rest => rw [List.takeWhile_cons_of_neg (by simp [h c rfl]), List.append_nil]
  simp only [leadingInt, hspace]
  rw [if_neg (hne _ (by decide)), if_neg (hne _ (by decide)), htake, digitsValue_decimalNat]

theorem atoi_eq {s : List Byte} {n : ℕ} (h : leadingInt s = n) (hn : n < 2 ^ 31) : atoi s = n := by
  rw [atoi, h, min_eq_left (by omega), max_eq_right (by omega)]
  exact Int.bmod_eq_of_le (by omega) (by omega)

theorem firstField_append {a : List Byte} (h : 44#8 ∉ a) (b : List Byte) :
    firstField (a ++ 44#8 :: b) = a := by
  rw [firstField, List.takeWhile_append_of_pos]
  · simp
  · intro c hc
    simpa using fun he : c = 44#8 => h (he ▸ hc)

theorem afterComma_append {a : List Byte} (h : 44#8 ∉ a) (b : List Byte) :
    afterComma (a ++ 44#8 :: b) = b := by
  have hd : (a ++ 44#8 :: b).dropWhile (· ≠ 44#8) = 44#8 :: b := by
    rw [List.dropWhile_append_of_pos]
    · simp
    · intro c hc
      simpa using fun he : c = 44#8 => h (he ▸ hc)
  rw [afterComma, if_pos (by simp), hd]
  rfl

theorem not_mem_decimalNat {n : ℕ} {b : Byte} (h : isDigit b = false) : b ∉ decimalNat n := by
  intro hb
  rw [isDigit_of_mem_decimalNat hb] at h
  exact absurd h (by decide)

theorem decimal_natCast (n : ℕ) : decimal n = decimalNat n := by
  simp [decimal]

/-- No decimal representation contains a byte that is neither a digit nor a minus sign. -/
theorem not_mem_decimal {z : ℤ} {b : Byte} (h : isDigit b = false) (hm : b ≠ 45#8) :
    b ∉ decimal z := by
  rw [decimal]
  split_ifs
  · exact not_mem_decimalNat h
  · simp [hm, not_mem_decimalNat h]

end Sqrkal.Foundation
