import Sqrkal.Foundation.Text

/-! # Searching texts and reading addresses

The member functions `find`, `find_first_of` and `substr` of a byte string, and
the two ways the C library reads a dotted address.
-/

namespace Sqrkal.Foundation

/-- The first place from `i` on at which a pattern stands, in the text from `i` on. -/
def findFrom (pattern : List Byte) (i : ℕ) : List Byte → Option ℕ
  | [] => if pattern = [] then some i else none
  | b :: s => if pattern.isPrefixOf (b :: s) then some i else findFrom pattern (i + 1) s

/-- `s.find(pattern, pos)`. -/
def find (s pattern : List Byte) (pos : ℕ) : Option ℕ :=
  if pos ≤ s.length then findFrom pattern pos (s.drop pos) else none

/-- Whether `s.find(pattern)` finds anything. -/
def contains (s pattern : List Byte) : Bool := (find s pattern 0).isSome

theorem findFrom_drop {pattern s : List Byte} {i : ℕ} (h : findFrom pattern i s = none) (j k : ℕ) :
    findFrom pattern j (s.drop k) = none := by
  induction s generalizing i j k with
  | nil =>
    rw [findFrom] at h
    split_ifs at h with hp
    rw [List.drop_nil, findFrom, if_neg hp]
  | cons b s ih =>
    rw [findFrom] at h
    split_ifs at h with hp
    cases k with
    | zero =>
      rw [List.drop_zero, findFrom, if_neg hp]
      exact ih h (j + 1) 0
    | succ k => exact ih h j k

theorem findFrom_bound {pattern s : List Byte} {i k : ℕ} (h : findFrom pattern i s = some k) :
    i ≤ k ∧ k + pattern.length ≤ i + s.length := by
  induction s generalizing i with
  | nil =>
    rw [findFrom] at h
    split_ifs at h with hp
    cases h
    simp [hp]
  | cons b s ih =>
    rw [findFrom] at h
    split_ifs at h with hp
    · cases h
      have hle := (List.isPrefixOf_iff_prefix.mp hp).length_le
      exact ⟨le_rfl, by omega⟩
    · have hrest := ih h
      rw [List.length_cons]
      omega

/-- A pattern that is found lies inside the text. -/
theorem find_bound {s pattern : List Byte} {pos k : ℕ} (h : find s pattern pos = some k) :
    k + pattern.length ≤ s.length := by
  unfold find at h
  split_ifs at h with hpos
  have hbound := findFrom_bound h
  rw [List.length_drop] at hbound
  omega

/-- What does not occur in a text is not found from any place on. -/
theorem find_eq_none {s pattern : List Byte} (h : contains s pattern = false) (pos : ℕ) :
    find s pattern pos = none := by
  rw [contains, find, if_pos (Nat.zero_le _), List.drop_zero, Option.isSome_eq_false_iff,
    Option.isNone_iff_eq_none] at h
  unfold find
  split_ifs
  · exact findFrom_drop h pos pos
  · rfl

/-- `s.find_first_of(chars, pos)`. -/
def findFirstOf (s chars : List Byte) (pos : ℕ) : Option ℕ :=
  ((s.drop pos).findIdx? (chars.contains ·)).map (pos + ·)

/-- The text from a place on to the next of some characters, or to the end. -/
def textUntil (s : List Byte) (pos : ℕ) (stop : List Byte) : List Byte :=
  (s.drop pos).takeWhile fun b => !stop.contains b

theorem textUntil_of_some {s stop : List Byte} {pos m : ℕ} (h : findFirstOf s stop pos = some m) :
    pos ≤ m ∧ m < s.length ∧ (s.drop pos).take (m - pos) = textUntil s pos stop := by
  unfold findFirstOf at h
  obtain ⟨j, hj, rfl⟩ := Option.map_eq_some_iff.mp h
  obtain ⟨hlt, hidx⟩ := List.findIdx?_eq_some_iff_findIdx_eq.mp hj
  rw [List.length_drop] at hlt
  refine ⟨Nat.le_add_right _ _, by omega, ?_⟩
  rw [textUntil, List.takeWhile_eq_take_findIdx_not, Nat.add_sub_cancel_left]
  simp only [Bool.not_not, hidx]

theorem textUntil_of_none {s stop : List Byte} {pos : ℕ} (h : findFirstOf s stop pos = none) :
    textUntil s pos stop = s.drop pos := by
  unfold findFirstOf at h
  have hnone := List.findIdx?_eq_none_iff.mp (Option.map_eq_none_iff.mp h)
  have hidx := List.findIdx_eq_length_of_false hnone
  rw [textUntil, List.takeWhile_eq_take_findIdx_not]
  simp only [Bool.not_not, hidx, List.take_length]

/-- `s.substr(pos, n)`; nothing where it throws. -/
def substr (s : List Byte) (pos n : ℕ) : Option (List Byte) :=
  if pos ≤ s.length then some ((s.drop pos).take n) else none

/-- The value of a digit in bases up to sixteen. -/
def digitValue (b : Byte) : ℕ :=
  if isDigit b then b.toNat - 48
  else if 97 ≤ b.toNat then b.toNat - 87
  else if 65 ≤ b.toNat then b.toNat - 55
  else 16

def numberIn (base : ℕ) (s : List Byte) : Option ℕ :=
  if s.all fun b => digitValue b < base then
    some (s.foldl (fun v b => base * v + digitValue b) 0)
  else none

/-- A number as `strtoul` reads it when the base is not given. -/
def addressPart (s : List Byte) : Option ℕ :=
  match s with
  | [] => none
  | b :: t =>
    if b ≠ 48#8 then if isDigit b then numberIn 10 s else none
    else match t with
      | [] => some 0
      | x :: h => if x = 120#8 ∨ x = 88#8 then if h = [] then none else numberIn 16 h else numberIn 8 t

/-- One to four parts, of which the last fills the remaining bytes. -/
def addressOf : List ℕ → Option ℕ
  | [a] => if a < 2 ^ 32 then some a else none
  | [a, b] => if a < 256 ∧ b < 2 ^ 24 then some (a * 2 ^ 24 + b) else none
  | [a, b, c] => if a < 256 ∧ b < 256 ∧ c < 2 ^ 16 then some (a * 2 ^ 24 + b * 2 ^ 16 + c) else none
  | [a, b, c, d] =>
    if a < 256 ∧ b < 256 ∧ c < 256 ∧ d < 256 then
      some (a * 2 ^ 24 + b * 2 ^ 16 + c * 2 ^ 8 + d)
    else none
  | _ => none

/-- `inet_addr`: the address in network order, or `INADDR_NONE`. White space ends the text. -/
def inetAddr (s : List Byte) : BitVec 32 :=
  match (((s.takeWhile fun b => !isSpace b).splitOn 46#8).mapM addressPart).bind addressOf with
  | some n => htonl (BitVec.ofNat 32 n)
  | none => 0xffffffff

/-- A part `inet_pton` accepts: decimal, below 256, without a leading zero. -/
def isPtonPart (s : List Byte) : Bool :=
  s ≠ [] && s.all isDigit && (s.length == 1 || s.head? ≠ some 48#8) && digitsValue s < 256

/-- Whether `inet_pton` accepts a text as an IPv4 address. -/
def isPtonAddress (s : List Byte) : Bool :=
  (s.splitOn 46#8).length == 4 && (s.splitOn 46#8).all isPtonPart

end Sqrkal.Foundation
