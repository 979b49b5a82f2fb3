import Sqrkal.Library.Signaling

/-! # The option texts of HELLO and HELLOACK

A HELLO starts with key and packet size, cut at fourteen characters; a HELLOACK
with the packet size, cut at five and followed by `YES` without a separator. What
a receiver parses is stated for texts with anything behind them.
-/

namespace Sqrkal.Handshake
open Foundation Library

theorem text_comma : text "," = [44#8] := by decide

theorem text_options : text ", YES, YES, YES, YES, DEFAULT, DEFAULT, DEFAULT" =
    44#8 :: text " YES, YES, YES, YES, DEFAULT, DEFAULT, DEFAULT" := by decide

theorem text_ackOptions : text "YES, YES, YES, DEFAULT, DEFAULT, DEFAULT" =
    text "YES" ++ 44#8 :: text " YES, YES, DEFAULT, DEFAULT, DEFAULT" := by decide

/-- The packet size left of a HELLO after the key and a comma. -/
def helloSizeText (key : ℕ) (psize : ℤ) : List Byte :=
  (decimal psize).take (13 - (decimalNat key).length)

section Hello
variable {key : ℕ} (hk : key < 65536) (psize : ℤ)
include hk

theorem decimalNat_key_length : (decimalNat key).length ≤ 5 :=
  decimalNat_length_le (by norm_num) (by omega)

theorem helloOptions_eq :
    helloOptions key psize = decimalNat key ++ 44#8 :: (helloSizeText key psize ++
      44#8 :: text " YES, YES, YES, YES, DEFAULT, DEFAULT, DEFAULT") := by
  have hl := decimalNat_key_length hk
  have ht : ((decimalNat key ++ [44#8]) ++ decimal psize).take 14 =
      decimalNat key ++ [44#8] ++ helloSizeText key psize := by
    rw [List.take_append, List.take_of_length_le (by simp; omega)]
    simp only [List.length_append, List.length_singleton, helloSizeText]
    congr 2
    omega
  rw [helloOptions, decimal_natCast, text_comma, snprintf, ht, text_options]
  simp

theorem hello_key (tail : List Byte) : atoi (firstField (helloOptions key psize ++ tail)) = key := by
  rw [helloOptions_eq hk, List.append_assoc, List.cons_append,
    firstField_append (not_mem_decimalNat (by decide))]
  have h := @leadingInt_decimalNat key [] (by simp)
  rw [List.append_nil] at h
  exact atoi_eq h (by omega)

theorem hello_size_field (tail : List Byte) :
    firstField (afterComma (helloOptions key psize ++ tail)) = helloSizeText key psize := by
  have hc : 44#8 ∉ helloSizeText key psize := fun h =>
    not_mem_decimal (by decide) (by decide) (List.mem_of_mem_take h)
  rw [helloOptions_eq hk, List.append_assoc, List.cons_append,
    afterComma_append (not_mem_decimalNat (by decide)), List.append_assoc, List.cons_append,
    firstField_append hc]

theorem helloOptions_no_nul : 0#8 ∉ helloOptions key psize := by
  have hd : 0#8 ∉ helloSizeText key psize := fun h =>
    not_mem_decimal (by decide) (by decide) (List.mem_of_mem_take h)
  have ht : 0#8 ∉ text " YES, YES, YES, YES, DEFAULT, DEFAULT, DEFAULT" := by decide
  have hn : 0#8 ∉ decimalNat key := not_mem_decimalNat (by decide)
  rw [helloOptions_eq hk]
  simp [hd, ht, hn]

end Hello

theorem helloOptions_ne_nil (key psize : ℤ) : helloOptions key psize ≠ [] := by
  rw [helloOptions, text_options]
  simp

theorem helloAckOptions_ne_nil (psize : ℤ) : helloAckOptions psize ≠ [] := by
  rw [helloAckOptions, text_ackOptions]
  simp

theorem helloAckOptions_no_nul (psize : ℤ) : 0#8 ∉ helloAckOptions psize := by
  have hd : 0#8 ∉ snprintf 6 (decimal psize) := fun h =>
    not_mem_decimal (by decide) (by decide) (List.mem_of_mem_take h)
  have ht : 0#8 ∉ text "YES, YES, YES, DEFAULT, DEFAULT, DEFAULT" := by decide
  rw [helloAckOptions]
  simp [hd, ht]

theorem ack_size_field (psize : ℤ) (tail : List Byte) :
    firstField (helloAckOptions psize ++ tail) = (decimal psize).take 5 ++ text "YES" := by
  have hd : 44#8 ∉ (decimal psize).take 5 := fun h =>
    not_mem_decimal (by decide) (by decide) (List.mem_of_mem_take h)
  have ht : 44#8 ∉ text "YES" := by decide
  rw [helloAckOptions, text_ackOptions, snprintf, List.append_assoc, List.append_assoc,
    List.cons_append, ← List.append_assoc, firstField_append (by simp [hd, ht])]

/-- A packet size of at most five digits is read back from a HELLO. -/
theorem hello_size {key psize : ℕ} (hk : key < 65536) (hp : psize ≤ 99999) :
    atoi (helloSizeText key psize) = psize := by
  have hl := decimalNat_key_length hk
  have hd : (decimalNat psize).length ≤ 5 := decimalNat_length_le (by norm_num) (by omega)
  rw [helloSizeText, decimal_natCast, List.take_of_length_le (by omega)]
  have h := @leadingInt_decimalNat psize [] (by simp)
  rw [List.append_nil] at h
  exact atoi_eq h (by omega)

/-- It is read back from a HELLOACK up to the letters behind it. -/
theorem ack_size {psize : ℕ} (hp : psize ≤ 99999) :
    atoi ((decimal psize).take 5 ++ text "YES") = psize := by
  have hd : (decimalNat psize).length ≤ 5 := decimalNat_length_le (by norm_num) (by omega)
  rw [decimal_natCast, List.take_of_length_le hd]
  exact atoi_eq (leadingInt_decimalNat psize (by decide)) (by omega)

end Sqrkal.Handshake
