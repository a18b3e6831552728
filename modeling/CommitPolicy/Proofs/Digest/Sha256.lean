import CommitPolicy.Digest.Sha256
import CommitPolicy.Text.CodePointSet
import Mathlib.Data.List.Basic

namespace CommitPolicy.Digest.Sha256

def Collide (xs ys : List UInt8) : Prop := xs ≠ ys ∧ digest xs = digest ys

theorem hexDigit?_hexDigit {n : Nat} (h : n < 16) : Text.hexDigit? (hexDigit n) = some n := by
  have hall : ∀ n < 16, Text.hexDigit? (hexDigit n) = some n := by decide
  exact hall n h

theorem hexDigit_inj {m n : Nat} (hm : m < 16) (hn : n < 16) (h : hexDigit m = hexDigit n) :
    m = n := by
  have hread := congrArg Text.hexDigit? h
  rw [hexDigit?_hexDigit hm, hexDigit?_hexDigit hn] at hread
  exact Option.some.inj hread

theorem hexByte_injective : Function.Injective hexByte := by
  intro a b h
  obtain ⟨hhigh, hlow⟩ : hexDigit (a.toNat / 16) = hexDigit (b.toNat / 16) ∧
      hexDigit (a.toNat % 16) = hexDigit (b.toNat % 16) := by simpa [hexByte] using h
  have ha := a.toNat_lt
  have hb := b.toNat_lt
  have hdiv := hexDigit_inj (by omega) (by omega) hhigh
  have hmod := hexDigit_inj (by omega) (by omega) hlow
  exact UInt8.toNat_inj.1 (by omega)

theorem flatMap_hexByte_injective : Function.Injective (List.flatMap hexByte) := by
  intro xs
  induction xs with
  | nil =>
    rintro (_ | ⟨b, ys⟩) h
    · rfl
    · simp [hexByte] at h
  | cons a xs ih =>
    rintro (_ | ⟨b, ys⟩) h
    · simp [hexByte] at h
    · rw [List.flatMap_cons, List.flatMap_cons] at h
      obtain ⟨hbyte, hrest⟩ := List.append_inj h rfl
      rw [hexByte_injective hbyte, ih hrest]

theorem toList_loop (bytes : ByteArray) (i : Nat) (read : List UInt8) :
    ByteArray.toList.loop bytes i read = read.reverse ++ bytes.data.toList.drop i := by
  induction i, read using ByteArray.toList.loop.induct bytes with
  | case1 i read hi ih =>
    have hlt : i < bytes.data.toList.length := hi
    have hget : bytes.get! i = bytes.data.toList[i] := getElem!_pos bytes.data i hi
    rw [ByteArray.toList.loop, if_pos hi, ih, List.drop_eq_getElem_cons hlt, hget,
      List.reverse_cons, List.append_assoc, List.singleton_append]
  | case2 i read hi =>
    have hle : bytes.data.toList.length ≤ i := Nat.le_of_not_lt hi
    rw [ByteArray.toList.loop, if_neg hi, List.drop_eq_nil_of_le hle, List.append_nil]

theorem toList_toUTF8_injective : Function.Injective fun s : String => s.toUTF8.toList := by
  intro s t h
  simp only [ByteArray.toList, toList_loop, List.reverse_nil, List.nil_append, List.drop_zero,
    Array.toList_inj] at h
  exact String.toByteArray_inj.1 (ByteArray.ext h)

/-- Equal digests are those of one text, or the hash function collides. -/
theorem hexOf_eq_iff {s t : String} :
    hexOf s = hexOf t ↔ s = t ∨ Collide s.toUTF8.toList t.toUTF8.toList := by
  have hdigest : hexOf s = hexOf t ↔ digest s.toUTF8.toList = digest t.toUTF8.toList := by
    rw [hexOf, hexOf, String.ofList_inj, flatMap_hexByte_injective.eq_iff]
  rw [hdigest, Collide, ne_eq, toList_toUTF8_injective.eq_iff]
  by_cases hst : s = t
  · simp [hst]
  · simp [hst]

end CommitPolicy.Digest.Sha256
