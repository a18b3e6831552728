import CommitPolicy.Report.Timestamp
import Mathlib.Data.List.TakeWhile

namespace CommitPolicy

namespace Decimal

theorem isDigit_digitChar {d : Nat} (h : d < 10) : d.digitChar.isDigit := by
  have hall : ∀ d < 10, (Nat.digitChar d).isDigit := by decide
  exact hall d h

theorem isDigit_of_mem_padded {n k : Nat} {c : Char} (h : c ∈ padded n k) : c.isDigit := by
  induction n generalizing k with
  | zero => cases h
  | succ n ih =>
    rcases List.mem_append.1 h with h | h
    · exact ih h
    · rw [List.mem_singleton.1 h]
      exact isDigit_digitChar (Nat.mod_lt k (by decide))

theorem digitsValue_concat (digits : List Char) (d : Char) :
    digitsValue (digits ++ [d]) = 10 * digitsValue digits + (d.toNat - '0'.toNat) := by
  rw [digitsValue, List.foldl_append]
  rfl

theorem digitsValue_padded (n k : Nat) : digitsValue (padded n k) = k % Nat.pow 10 n := by
  induction n generalizing k with
  | zero => exact (Nat.mod_one k).symm
  | succ n ih =>
    have hdigit : (Nat.digitChar (k % 10)).toNat = 48 + k % 10 :=
      Nat.toNat_digitChar_of_lt_ten (Nat.mod_lt k (by decide))
    have hzero : '0'.toNat = 48 := rfl
    have hpow : Nat.pow 10 (n + 1) = 10 * Nat.pow 10 n := Nat.mul_comm _ _
    rw [padded, digitsValue_concat, ih, hdigit, hzero, hpow, Nat.mod_mul]
    omega

theorem digits?_padded {n k : Nat} (h : k < Nat.pow 10 n) (rest : List Char) :
    digits? n (padded n k ++ rest) = some (k, rest) := by
  have hlength := length_padded n k
  have hdigits : (padded n k).all Char.isDigit :=
    List.all_eq_true.2 fun c hc => isDigit_of_mem_padded hc
  rw [digits?, List.take_left' hlength, List.drop_left' hlength, if_pos ⟨hlength, hdigits⟩,
    digitsValue_padded, Nat.mod_eq_of_lt h]

theorem digitsValue_append_zeros (digits : List Char) (n : Nat) :
    digitsValue (digits ++ List.replicate n '0') = digitsValue digits * Nat.pow 10 n := by
  induction n with
  | zero => rw [List.replicate_zero, List.append_nil, Nat.pow, Nat.mul_one]
  | succ n ih =>
    have hpow : Nat.pow 10 (n + 1) = 10 * Nat.pow 10 n := Nat.mul_comm _ _
    rw [List.replicate_succ', ← List.append_assoc, digitsValue_concat, ih, Nat.sub_self,
      Nat.add_zero, hpow, Nat.mul_left_comm]

end Decimal

namespace Calendar

open Decimal (padded digits?_padded)

theorem digits?_two {k : Nat} (h : k < 100) (rest : List Char) :
    Decimal.digits? 2 (padded 2 k ++ rest) = some (k, rest) := digits?_padded h rest

theorem date?_padded {year month day : Nat} (hyear : year ≤ 9999) (h : isDate year month day)
    (rest : List Char) :
    date? (padded 4 year ++ '-' :: padded 2 month ++ '-' :: padded 2 day ++ rest) =
      some ((year, month, day), rest) := by
  have hbounds : month ≤ 12 ∧ day ≤ daysInMonth year month := by
    simp only [isDate, Bool.and_eq_true, decide_eq_true_eq] at h
    exact ⟨h.1.1.2, h.2⟩
  have hdays : daysInMonth year month ≤ 31 := by
    rw [daysInMonth]
    split
    · split <;> omega
    · split <;> omega
  have hfirst := digits?_padded (n := 4) (Nat.lt_succ_of_le hyear)
    ('-' :: padded 2 month ++ '-' :: padded 2 day ++ rest)
  have hsecond := digits?_two (k := month) (by omega) ('-' :: padded 2 day ++ rest)
  have hthird := digits?_two (k := day) (by omega) rest
  simp only [List.append_assoc, List.cons_append] at hfirst hsecond ⊢
  simp [date?, skip?, hfirst, hsecond, hthird, h]

theorem hourMinute?_padded {hour minute : Nat} (h : isHourMinute hour minute) (rest : List Char) :
    hourMinute? (padded 2 hour ++ ':' :: padded 2 minute ++ rest) =
      some ((hour, minute), rest) := by
  have hbounds : hour ≤ 23 ∧ minute ≤ 59 := by
    simpa only [isHourMinute, Bool.and_eq_true, decide_eq_true_eq] using h
  have hfirst := digits?_two (k := hour) (by omega) (':' :: padded 2 minute ++ rest)
  have hsecond := digits?_two (k := minute) (by omega) rest
  simp only [List.append_assoc, List.cons_append] at hfirst ⊢
  simp [hourMinute?, skip?, hfirst, hsecond, h]

end Calendar

namespace Timestamp

open Decimal

theorem exists_zeros_after (digits : List Char) :
    ∃ n, digits = withoutTrailingZeros digits ++ List.replicate n '0' := by
  have hzeros : ∀ c ∈ digits.reverse.takeWhile (· == '0'), c = '0' :=
    fun c hc => beq_iff_eq.1 (List.mem_takeWhile_imp (p := (· == '0')) hc)
  refine ⟨(digits.reverse.takeWhile (· == '0')).length, ?_⟩
  rw [← List.reverse_inj, List.reverse_append, withoutTrailingZeros, List.reverse_reverse,
    List.reverse_replicate, ← List.eq_replicate_of_mem hzeros, List.takeWhile_append_dropWhile]

theorem offset_head (offset : Int) : ∃ c rest, formatOffset offset = c :: rest ∧
    c.isDigit = false ∧ c ≠ '.' := by
  rw [formatOffset]
  split
  · exact ⟨'Z', [], rfl, rfl, by decide⟩
  · dsimp only
    split
    · exact ⟨'-', _, rfl, rfl, by decide⟩
    · exact ⟨'+', _, rfl, rfl, by decide⟩

theorem fraction?_format {nanosecond : Nat} (h : nanosecond < 1_000_000_000) (offset : Int) :
    fraction? (formatFraction nanosecond ++ formatOffset offset) =
      some (nanosecond, formatOffset offset) := by
  obtain ⟨c, rest, hoffset, hdigit, hpoint⟩ := offset_head offset
  rw [formatFraction, hoffset]
  split
  · rename_i hzero
    rw [hzero, List.nil_append, fraction?]
    exact fun cs he => hpoint (List.cons.inj he).1
  · rename_i hne
    obtain ⟨n, hn⟩ := exists_zeros_after (padded 9 nanosecond)
    have hdigits : ∀ d ∈ withoutTrailingZeros (padded 9 nanosecond), d.isDigit := by
      intro d hd
      have hmem : d ∈ padded 9 nanosecond := by
        rw [hn]
        exact List.mem_append_left _ hd
      exact isDigit_of_mem_padded hmem
    have hlength : (withoutTrailingZeros (padded 9 nanosecond)).length + n = 9 := by
      have hall := congrArg List.length hn
      rw [length_padded, List.length_append, List.length_replicate] at hall
      exact hall.symm
    have hvalue : digitsValue (withoutTrailingZeros (padded 9 nanosecond)) * Nat.pow 10 n =
        nanosecond := by
      have hsmall : nanosecond < Nat.pow 10 9 := h
      rw [← digitsValue_append_zeros, ← hn, digitsValue_padded, Nat.mod_eq_of_lt hsmall]
    have hnonempty : withoutTrailingZeros (padded 9 nanosecond) ≠ [] := by
      intro hnil
      rw [hnil] at hvalue
      exact hne (by rw [← hvalue]; exact Nat.zero_mul _)
    generalize withoutTrailingZeros (padded 9 nanosecond) = digits at *
    have htake : (digits ++ c :: rest).takeWhile Char.isDigit = digits := by
      rw [List.takeWhile_append_of_pos hdigits, List.takeWhile_cons_of_neg (by simp [hdigit]),
        List.append_nil]
    have hdrop : (digits ++ c :: rest).dropWhile Char.isDigit = c :: rest := by
      rw [List.dropWhile_append_of_pos hdigits, List.dropWhile_cons_of_neg (by simp [hdigit])]
    have hkept : digits.take 9 = digits := List.take_of_length_le (by omega)
    have hexponent : 9 - digits.length = n := by omega
    rw [List.cons_append, fraction?, htake, hdrop, hkept, hexponent,
      if_neg (by simpa using hnonempty)]
    exact congrArg some (Prod.ext hvalue rfl)

theorem offset?_format {offset : Int} (h : offset.natAbs < 24 * 60) :
    Calendar.offset? (formatOffset offset) = some (offset, []) := by
  have hminute : Calendar.isHourMinute (offset.natAbs / 60) (offset.natAbs % 60) := by
    simp only [Calendar.isHourMinute, Bool.and_eq_true, decide_eq_true_eq]
    omega
  have hread := Calendar.hourMinute?_padded hminute []
  rw [List.append_nil] at hread
  rw [formatOffset]
  split
  · rename_i hzero
    rw [hzero]
    rfl
  · dsimp only
    by_cases hneg : offset < 0
    · have hvalue : -((60 : Int) * (offset.natAbs / 60 : Nat) + (offset.natAbs % 60 : Nat)) =
          offset := by omega
      rw [if_pos hneg, List.cons_append, Calendar.offset?, if_neg (by decide), if_pos (by decide),
        hread]
      simpa using hvalue
    · have hvalue : (60 : Int) * (offset.natAbs / 60 : Nat) + (offset.natAbs % 60 : Nat) =
          offset := by omega
      rw [if_neg hneg, List.cons_append, Calendar.offset?, if_neg (by decide), if_pos (by decide),
        hread]
      simpa using hvalue

/-- What was written reads back. -/
theorem ofText?_format (t : Timestamp) : ofText? t.format = some t := by
  obtain ⟨year, month, day, hour, minute, second, nanosecond, offset, hvalid⟩ := t
  have ⟨hyear, hdate, htime, hsecond, hnanosecond, hoffset⟩ := hvalid
  have hreadDate := Calendar.date?_padded hyear hdate
  have hreadTime := Calendar.hourMinute?_padded htime
  have hreadSecond := Calendar.digits?_two (k := second) (by omega)
  have hreadFraction := fraction?_format hnanosecond offset
  have hreadOffset := offset?_format hoffset
  have hseparator (rest : List Char) : skipSeparator? ('T' :: rest) = some rest := rfl
  have hcolon (rest : List Char) : Calendar.skip? ':' (':' :: rest) = some rest := rfl
  have hleap : second ≠ 60 := by omega
  have hmake : make? year month day hour minute second nanosecond offset =
      some ⟨year, month, day, hour, minute, second, nanosecond, offset, hvalid⟩ := dif_pos hvalid
  simp only [List.append_assoc, List.cons_append] at hreadDate hreadTime
  rw [ofText?, format, String.toList_ofList]
  simp [ofChars?, hreadDate, hseparator, hreadTime, hcolon, hreadSecond, hreadFraction,
    hreadOffset, hleap, hmake]

end Timestamp

end CommitPolicy
