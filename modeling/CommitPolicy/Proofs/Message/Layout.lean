import CommitPolicy.Message.Basic
import CommitPolicy.Proofs.Header.Shape
import CommitPolicy.Proofs.Message.Footer
import CommitPolicy.Proofs.Text.Line

namespace CommitPolicy.Message

open Text

variable {header : List Char} {rest : List (List Char)}

def upToFooter (rest : List (List Char)) : List (List Char) := rest.takeWhile (!isFooterLine ·)

def HasBody (rest : List (List Char)) : Prop :=
  ∃ line ∈ upToFooter rest, ∃ c ∈ line, ¬ isBlank c

def HasFooter (rest : List (List Char)) : Prop := ∃ line ∈ rest, isFooterLine line

/-- The line after the header is empty whenever the lines `rest` after it hold a body. -/
def BodySetOff (rest : List (List Char)) : Prop := HasBody rest → rest.head? = some []

/-- The line before the first footer line is empty whenever there is a footer. -/
def FooterSetOff (header : List Char) (rest : List (List Char)) : Prop :=
  HasFooter rest → (header :: upToFooter rest).getLast? = some []

instance : Decidable (HasBody rest) :=
  decidable_of_iff ((upToFooter rest).any fun line => line.any (!isBlank ·)) (by simp [HasBody])

instance : Decidable (HasFooter rest) :=
  decidable_of_iff (rest.any isFooterLine) (by simp [HasFooter])

instance : Decidable (BodySetOff rest) := inferInstanceAs (Decidable (_ → _))

instance : Decidable (FooterSetOff header rest) := inferInstanceAs (Decidable (_ → _))

theorem upToFooter_eq_self (h : ¬ HasFooter rest) : upToFooter rest = rest := by
  rw [upToFooter, List.takeWhile_eq_self_iff]
  intro line hm
  rw [Bool.not_eq_true']
  exact Bool.eq_false_iff.2 fun hf => h ⟨line, hm, hf⟩

theorem upToFooter_append_cons {before after : List (List Char)} {line : List Char}
    (hbefore : ∀ l ∈ before, ¬ isFooterLine l) (hline : isFooterLine line) :
    upToFooter (before ++ line :: after) = before := by
  rw [upToFooter, List.takeWhile_append_of_pos (by simpa using hbefore),
    List.takeWhile_cons_of_neg (by simp [hline]), List.append_nil]

theorem bodySetOff_nil : BodySetOff [] := by decide

theorem footerSetOff_nil : FooterSetOff header [] := by
  rintro ⟨line, hm, -⟩
  cases hm

theorem HasFooter.exists_eq (h : HasFooter rest) :
    ∃ before line after, rest = before ++ line :: after ∧ (∀ l ∈ before, ¬ isFooterLine l) ∧
      isFooterLine line := by
  obtain ⟨line, hm, hf⟩ := h
  induction rest with
  | nil => simp at hm
  | cons first rest ih =>
    by_cases hfirst : isFooterLine first
    · exact ⟨[], first, rest, rfl, by simp, hfirst⟩
    · rcases List.mem_cons.1 hm with rfl | hm
      · exact absurd hf hfirst
      · obtain ⟨before, line, after, rfl, hbefore, hline⟩ := ih hm
        exact ⟨first :: before, line, after, rfl, List.forall_mem_cons.2 ⟨hfirst, hbefore⟩, hline⟩

/-- A footer stays set off when the lines are cut short within one of them. -/
theorem FooterSetOff.of_shortened {init more : List (List Char)} {last tail : List Char}
    (h : FooterSetOff header (init ++ (last ++ tail) :: more)) :
    FooterSetOff header (init ++ [last]) := by
  intro hf
  by_cases hinit : HasFooter init
  · obtain ⟨before, line, after, rfl, hbefore, hline⟩ := hinit.exists_eq
    rw [List.append_assoc, List.cons_append] at h ⊢
    rw [FooterSetOff, upToFooter_append_cons hbefore hline] at h
    rw [upToFooter_append_cons hbefore hline]
    exact h ⟨line, by simp, hline⟩
  · have hinit : ∀ l ∈ init, ¬ isFooterLine l := fun l hl hfl => hinit ⟨l, hl, hfl⟩
    have hlast : isFooterLine last := by
      obtain ⟨l, hl, hfl⟩ := hf
      rcases List.mem_append.1 hl with hl | hl
      · exact absurd hfl (hinit l hl)
      · exact List.mem_singleton.1 hl ▸ hfl
    have htail := isFooterLine_append hlast tail
    rw [FooterSetOff, upToFooter_append_cons hinit htail] at h
    rw [upToFooter_append_cons hinit hlast]
    exact h ⟨last ++ tail, by simp, htail⟩

theorem map_toList_map_ofList (lines : List (List Char)) :
    (lines.map String.ofList).map String.toList = lines := by
  rw [List.map_map]
  exact List.map_id'' (fun _ => String.toList_ofList) lines

theorem isSome_paragraph?_iff {lines : List (List Char)} :
    (paragraph? (lines.map String.ofList)).isSome ↔ ∃ line ∈ lines, ∃ c ∈ line, ¬ isBlank c := by
  have hnil : trim (join '\n' lines) = [] ↔ ¬ ∃ line ∈ lines, ∃ c ∈ line, ¬ isBlank c := by
    rw [trim_eq_nil_iff, forall_mem_join_isBlank_iff]
    simp
  rw [paragraph?, map_toList_map_ofList, Option.isSome_iff_ne_none, Ne,
    Header.nonEmpty?_eq_none_iff, hnil, not_not]

theorem findIdx?_isFooterLine_map (rest : List (List Char)) :
    (rest.map String.ofList).findIdx? (isFooterLine ·.toList) =
      if HasFooter rest then some (upToFooter rest).length else none := by
  rw [List.findIdx?_map]
  have hcomp : (fun line : String => isFooterLine line.toList) ∘ String.ofList = isFooterLine := by
    funext line
    rw [Function.comp_apply, String.toList_ofList]
  rw [hcomp]
  split
  · rename_i h
    obtain ⟨before, line, after, rfl, hbefore, hline⟩ := h.exists_eq
    rw [upToFooter_append_cons hbefore hline, List.findIdx?_append,
      List.findIdx?_eq_none_iff.2 (by simpa using hbefore), List.findIdx?_cons, if_pos hline]
    simp
  · rename_i h
    rw [List.findIdx?_eq_none_iff]
    exact fun line hm => Bool.eq_false_iff.2 fun hf => h ⟨line, hm, hf⟩

theorem lt_length_of_footerIndex? {lines : List String} {start : Nat}
    (h : footerIndex? lines = some start) : 1 ≤ start ∧ start < lines.length := by
  obtain ⟨i, hi, rfl⟩ := Option.map_eq_some_iff.1 h
  have hlt := (List.findIdx?_eq_some_iff_getElem.1 hi).1
  rw [List.length_drop] at hlt
  omega

section OfClean

variable {g : Grammar} {raw : String}

theorem body_ofClean (g : Grammar) (raw : String) :
    (ofClean g raw).body =
      paragraph? (bodyLines (ofClean g raw).lines (ofClean g raw).footerStart) := by
  simp only [ofClean]

theorem footer_ofClean (g : Grammar) (raw : String) :
    (ofClean g raw).footer = (ofClean g raw).footerStart.bind fun start =>
      paragraph? ((ofClean g raw).lines.drop start) := by
  simp only [ofClean]

theorem lt_length_of_footerStart_ofClean {start : Nat}
    (h : (ofClean g raw).footerStart = some start) :
    1 ≤ start ∧ start < (ofClean g raw).lines.length := by
  rw [ofClean] at h
  exact lt_length_of_footerIndex? h

theorem one_lt_length_of_isSome_body (h : (ofClean g raw).body.isSome) :
    1 < (ofClean g raw).lines.length := by
  by_contra hlength
  have hnil : bodyLines (ofClean g raw).lines (ofClean g raw).footerStart = [] := by
    rw [bodyLines, List.drop_eq_nil_iff, List.length_take]
    omega
  have hempty : paragraph? [] = none := rfl
  rw [body_ofClean, hnil, hempty] at h
  exact absurd h (by decide)

theorem lines_ofClean (h : Text.lines raw.toList = header :: rest) :
    (ofClean g raw).lines = (header :: rest).map String.ofList := by
  rw [← h]
  rfl

theorem header_ofClean (h : Text.lines raw.toList = header :: rest) :
    (ofClean g raw).header = Header.ofLine g (String.ofList header) := by
  rw [ofClean, linesOf, h]
  rfl

theorem footerStart_ofClean (h : Text.lines raw.toList = header :: rest) :
    (ofClean g raw).footerStart =
      if HasFooter rest then some ((upToFooter rest).length + 1) else none := by
  have hf : (ofClean g raw).footerStart = footerIndex? (ofClean g raw).lines := rfl
  rw [hf, lines_ofClean h, footerIndex?, List.map_cons, List.drop_one, List.tail_cons,
    findIdx?_isFooterLine_map]
  split <;> rfl

theorem isSome_body_ofClean_iff (h : Text.lines raw.toList = header :: rest) :
    (ofClean g raw).body.isSome ↔ HasBody rest := by
  have hlines : bodyLines (ofClean g raw).lines (ofClean g raw).footerStart =
      (upToFooter rest).map String.ofList := by
    rw [bodyLines, lines_ofClean h, footerStart_ofClean h]
    by_cases hf : HasFooter rest
    · obtain ⟨before, line, after, rfl, hbefore, hline⟩ := hf.exists_eq
      rw [if_pos hf, upToFooter_append_cons hbefore hline]
      simp
    · rw [if_neg hf, upToFooter_eq_self hf, Option.getD_none, List.take_length]
      rfl
  rw [body_ofClean, hlines, isSome_paragraph?_iff, HasBody]

theorem isSome_footer_ofClean_iff (h : Text.lines raw.toList = header :: rest) :
    (ofClean g raw).footer.isSome ↔ HasFooter rest := by
  rw [footer_ofClean, lines_ofClean h, footerStart_ofClean h]
  by_cases hf : HasFooter rest
  · obtain ⟨before, line, after, rfl, hbefore, hline⟩ := hf.exists_eq
    rw [if_pos hf, upToFooter_append_cons hbefore hline, Option.bind_some, List.map_cons,
      List.drop_succ_cons, ← List.map_drop, List.drop_left, isSome_paragraph?_iff]
    exact iff_of_true ⟨line, List.mem_cons_self, exists_not_isBlank_of_isFooterLine hline⟩ hf
  · rw [if_neg hf]
    exact iff_of_false (by simp) hf

theorem lineAfterHeader?_ofClean (h : Text.lines raw.toList = header :: rest) :
    (ofClean g raw).lineAfterHeader? = rest.head?.map String.ofList := by
  rw [lineAfterHeader?, lines_ofClean h]
  cases rest <;> rfl

theorem getElem?_lines_ofClean (h : Text.lines raw.toList = header :: rest) :
    (ofClean g raw).lines[(upToFooter rest).length]? =
      (header :: upToFooter rest).getLast?.map String.ofList := by
  obtain ⟨after, hafter⟩ : upToFooter rest <+: rest := List.takeWhile_prefix _
  have hsplit : header :: rest = (header :: upToFooter rest) ++ after := by
    rw [List.cons_append, hafter]
  rw [lines_ofClean h, List.getElem?_map, List.getLast?_eq_getElem?, List.length_cons,
    Nat.add_sub_cancel, hsplit, List.getElem?_append_left (by simp)]

end OfClean

end CommitPolicy.Message
