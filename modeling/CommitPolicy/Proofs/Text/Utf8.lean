import CommitPolicy.Text.Utf8
import Mathlib.Data.List.Basic

namespace CommitPolicy.Text.Utf8

variable {n bits more : Nat} {low high : UInt8} {rest : List UInt8}

theorem toNat_ofNat (h : n < 0x100) : (UInt8.ofNat n).toNat = n := UInt8.toNat_ofNat_of_lt' h

theorem ofByte_of_lt (h : n < 0x80) : Start.ofByte (.ofNat n) = .single (Char.ofNat n) := by
  rw [Start.ofByte, toNat_ofNat (by omega), if_pos h]

theorem ofByte_of_two (h : 0xC2 ≤ n) (h' : n < 0xE0) :
    Start.ofByte (.ofNat n) = .lead ⟨n % 0x20, 0, 0x80, 0xBF⟩ := by
  rw [Start.ofByte, toNat_ofNat (by omega), if_neg (by omega), if_neg (by omega), if_pos h']

/-- The second byte of three leaves no way to write less than three bytes hold, nor a surrogate. -/
theorem ofByte_of_three (h : 0xE0 ≤ n) (h' : n < 0xF0) : Start.ofByte (.ofNat n) =
    .lead ⟨n % 0x10, 1, if n = 0xE0 then 0xA0 else 0x80, if n = 0xED then 0x9F else 0xBF⟩ := by
  rw [Start.ofByte, toNat_ofNat (by omega), if_neg (by omega), if_neg (by omega), if_neg (by omega)]
  by_cases hfirst : n = 0xE0
  · simp [hfirst]
  · by_cases hlast : n = 0xED
    · simp [hlast]
    · simp [hfirst, hlast, h']

theorem ofByte_of_four (h : 0xF0 ≤ n) (h' : n < 0xF5) : Start.ofByte (.ofNat n) =
    .lead ⟨n % 0x08, 2, if n = 0xF0 then 0x90 else 0x80, if n = 0xF4 then 0x8F else 0xBF⟩ := by
  rw [Start.ofByte, toNat_ofNat (by omega), if_neg (by omega), if_neg (by omega), if_neg (by omega),
    if_neg (by omega), if_neg (by omega), if_neg (by omega)]
  by_cases hfirst : n = 0xF0
  · simp [hfirst]
  · by_cases hlast : n = 0xF4
    · simp [hlast]
    · rw [if_neg hfirst, if_pos (by omega), if_neg hfirst, if_neg hlast]

theorem scan_pending (h : low.toNat ≤ n + 0x80) (h' : n + 0x80 ≤ high.toNat) (hn : n < 0x40) :
    scan (some ⟨bits, more, low, high⟩) (.ofNat (n + 0x80) :: rest) =
      match more with
      | 0 => some (Char.ofNat (bits * 0x40 + n)) :: scan none rest
      | more + 1 => scan (some ⟨bits * 0x40 + n, more, 0x80, 0xBF⟩) rest := by
  have hbyte : (UInt8.ofNat (n + 0x80)).toNat = n + 0x80 := toNat_ofNat (by omega)
  have hrange : low ≤ UInt8.ofNat (n + 0x80) ∧ UInt8.ofNat (n + 0x80) ≤ high := by
    rw [UInt8.le_iff_toNat_le, UInt8.le_iff_toNat_le, hbyte]
    exact ⟨h, h'⟩
  have hbits : (n + 0x80) % 0x40 = n := by omega
  rw [scan]
  cases more with
  | zero => simp only [if_pos hrange, hbyte, hbits]
  | succ more => simp only [if_pos hrange, hbyte, hbits]

theorem scan_utf8EncodeChar_append (c : Char) :
    scan none (String.utf8EncodeChar c ++ rest) = some c :: scan none rest := by
  have hvalid : c.val.toNat < 0xD800 ∨ 0xDFFF < c.val.toNat ∧ c.val.toNat < 0x110000 := c.valid
  have hc : c = Char.ofNat c.val.toNat := (Char.ofNat_toNat c).symm
  rw [String.utf8EncodeChar]
  conv_rhs => rw [hc]
  generalize c.val.toNat = v at hvalid
  by_cases hone : v ≤ 0x7F
  · rw [if_pos hone, List.singleton_append, scan, ofByte_of_lt (by omega)]
  by_cases htwo : v ≤ 0x7FF
  · have hv : (v / 64 % 32 + 192) % 0x20 * 0x40 + v % 64 = v := by omega
    rw [if_neg hone, if_pos htwo, List.cons_append, List.singleton_append, scan,
      ofByte_of_two (by omega) (by omega)]
    dsimp only
    rw [scan_pending (by simp) (by simp; omega) (by omega), hv]
  by_cases hthree : v ≤ 0xFFFF
  · have hv : ((v / 4096 % 16 + 224) % 0x10 * 0x40 + v / 64 % 64) * 0x40 + v % 64 = v := by omega
    have hlow : (if v / 4096 % 16 + 224 = 0xE0 then 0xA0 else 0x80 : UInt8).toNat ≤
        v / 64 % 64 + 0x80 := by
      split <;> simp only [UInt8.reduceToNat] <;> omega
    have hhigh : v / 64 % 64 + 0x80 ≤
        (if v / 4096 % 16 + 224 = 0xED then 0x9F else 0xBF : UInt8).toNat := by
      split <;> simp only [UInt8.reduceToNat] <;> omega
    rw [if_neg hone, if_neg htwo, if_pos hthree, List.cons_append, List.cons_append,
      List.singleton_append, scan, ofByte_of_three (by omega) (by omega)]
    dsimp only
    rw [scan_pending hlow hhigh (by omega)]
    dsimp only
    rw [scan_pending (by simp) (by simp; omega) (by omega), hv]
  · have hv : (((v / 262144 % 8 + 240) % 0x08 * 0x40 + v / 4096 % 64) * 0x40 + v / 64 % 64) * 0x40 +
        v % 64 = v := by omega
    have hlow : (if v / 262144 % 8 + 240 = 0xF0 then 0x90 else 0x80 : UInt8).toNat ≤
        v / 4096 % 64 + 0x80 := by
      split <;> simp only [UInt8.reduceToNat] <;> omega
    have hhigh : v / 4096 % 64 + 0x80 ≤
        (if v / 262144 % 8 + 240 = 0xF4 then 0x8F else 0xBF : UInt8).toNat := by
      split <;> simp only [UInt8.reduceToNat] <;> omega
    rw [if_neg hone, if_neg htwo, if_neg hthree, List.cons_append, List.cons_append,
      List.cons_append, List.singleton_append, scan, ofByte_of_four (by omega) (by omega)]
    dsimp only
    rw [scan_pending hlow hhigh (by omega)]
    dsimp only
    rw [scan_pending (by simp) (by simp; omega) (by omega)]
    dsimp only
    rw [scan_pending (by simp) (by simp; omega) (by omega), hv]

theorem scan_flatMap_utf8EncodeChar (cs : List Char) :
    scan none (cs.flatMap String.utf8EncodeChar) = cs.map some := by
  induction cs with
  | nil => rfl
  | cons c cs ih => rw [List.flatMap_cons, scan_utf8EncodeChar_append, ih, List.map_cons]

theorem data_toUTF8 (text : String) :
    text.toUTF8.data.toList = text.toList.flatMap String.utf8EncodeChar := by
  have hbytes : text.toUTF8 = (text.toList.flatMap String.utf8EncodeChar).toByteArray := by
    conv_lhs => rw [← String.ofList_toList (s := text)]
    rfl
  rw [hbytes, List.data_toByteArray]

/-- Writing a text as bytes and reading it again changes nothing. -/
theorem decode?_toUTF8 (text : String) : decode? text.toUTF8 = some text := by
  have hall : (text.toList.map some).mapM id = some text.toList := by
    rw [List.mapM_map]
    exact List.mapM_pure.trans (congrArg some (List.map_id' _))
  rw [decode?, data_toUTF8, scan_flatMap_utf8EncodeChar, hall, Option.map_some, String.ofList_toList]

end CommitPolicy.Text.Utf8
