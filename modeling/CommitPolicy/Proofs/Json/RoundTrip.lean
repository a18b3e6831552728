import CommitPolicy.Json.Parser
import CommitPolicy.Proofs.Json.Induction
import CommitPolicy.Proofs.Json.Literal

namespace CommitPolicy.Json

def commaSeparated (parts : List (List Token)) : List Token := [Token.comma].intercalate parts

mutual

def tokens : Json → List Token
  | .null => [.null]
  | .bool b => [.bool b]
  | .number n => [.number n]
  | .string s => [.string s]
  | .array items => .openBracket :: (commaSeparated (itemTokens items) ++ [.closeBracket])
  | .object fields => .openBrace :: (commaSeparated (fieldTokens fields) ++ [.closeBrace])

def itemTokens : List Json → List (List Token)
  | [] => []
  | v :: rest => tokens v :: itemTokens rest

def fieldTokens : List (String × Json) → List (List Token)
  | [] => []
  | (k, v) :: rest => (.string k :: .colon :: tokens v) :: fieldTokens rest

end

theorem itemTokens_eq_map (items : List Json) : itemTokens items = items.map tokens := by
  induction items with
  | nil => rfl
  | cons v items ih => rw [itemTokens, ih, List.map_cons]

theorem fieldTokens_eq_map (fields : List (String × Json)) :
    fieldTokens fields =
      fields.map fun field => Token.string field.1 :: .colon :: field.2.tokens := by
  induction fields with
  | nil => rfl
  | cons field fields ih => rw [fieldTokens, ih, List.map_cons]

theorem commaSeparated_cons_cons (p q : List Token) (parts : List (List Token)) :
    commaSeparated (p :: q :: parts) = p ++ .comma :: commaSeparated (q :: parts) := by
  simp [commaSeparated, List.intercalate_cons_cons]

/-- The text has these tokens, however much fuel is left over. -/
def Tokenizes (cs : List Char) (ts : List Token) : Prop :=
  ∀ fuel, cs.length ≤ fuel → tokensWithin? fuel cs = some ts

namespace Tokenizes

variable {cs rest after : List Char} {ts : List Token} {t : Token} {c : Char}

theorem nil : Tokenizes [] [] := by
  intro fuel _
  cases fuel <;> rfl

theorem space (hc : isSpace c) (h : Tokenizes cs ts) : Tokenizes (c :: cs) ts := by
  intro fuel hfuel
  cases fuel with
  | zero => cases hfuel
  | succ fuel =>
    have hread := h (fuel + 1) (Nat.le_trans (Nat.le_succ _) hfuel)
    rw [tokensWithin?] at hread ⊢
    rwa [List.dropWhile_cons_of_pos hc]

theorem token (hc : isSpace c = false) (htoken : token? c rest = some (t, after))
    (hafter : after <:+ rest) (h : Tokenizes after ts) :
    Tokenizes (c :: rest) (t :: ts) := by
  intro fuel hfuel
  cases fuel with
  | zero => cases hfuel
  | succ fuel =>
    have hread := h fuel (Nat.le_trans hafter.length_le (Nat.le_of_succ_le_succ hfuel))
    rw [tokensWithin?, List.dropWhile_cons_of_neg (by simp [hc])]
    simp [htoken, hread]

theorem mark (hc : isSpace c = false) (htoken : ∀ rest, token? c rest = some (t, rest))
    (h : Tokenizes rest ts) : Tokenizes (c :: rest) (t :: ts) :=
  token hc (htoken rest) List.suffix_rfl h

theorem newLine (indent : Nat) (h : Tokenizes cs ts) : Tokenizes (newLine indent ++ cs) ts := by
  rw [Json.newLine, List.cons_append]
  refine space rfl ?_
  induction indent with
  | zero => exact h
  | succ n ih => exact space rfl ih

theorem string (s : String) (h : Tokenizes cs ts) :
    Tokenizes (printString s ++ cs) (.string s :: ts) := by
  have htoken : token? '\x22' (s.toList.flatMap escapeChar ++ '\x22' :: cs) =
      some (.string s, cs) := by
    rw [token?, stringBody?_escaped]
    simp [decodeString?_escaped]
  rw [printString, List.cons_append, List.append_assoc, List.singleton_append]
  exact token rfl htoken ((List.suffix_cons _ cs).trans (List.suffix_append _ _)) h

end Tokenizes

def Prints (piece : List Char) (part : List Token) : Prop :=
  ∀ rest ts, EndsValue rest → Tokenizes rest ts → Tokenizes (piece ++ rest) (part ++ ts)

theorem endsValue_newLine (indent : Nat) (rest : List Char) :
    EndsValue (newLine indent ++ rest) := by
  rintro _ ⟨⟩
  exact .inr rfl

theorem Prints.newLine {piece : List Char} {part : List Token} (indent : Nat)
    (h : Prints piece part) : Prints (newLine indent ++ piece) part := by
  intro rest ts hrest hts
  rw [List.append_assoc]
  exact (h rest ts hrest hts).newLine indent

theorem Prints.field {piece : List Char} {part : List Token} (k : String) (h : Prints piece part) :
    Prints (printString k ++ ':' :: ' ' :: piece) (.string k :: .colon :: part) := by
  intro rest ts hrest hts
  rw [List.append_assoc]
  exact .string k (.mark rfl (fun _ => rfl) (.space rfl (h rest ts hrest hts)))

theorem prints_join {pieces : List (List Char)} {parts : List (List Token)}
    (h : List.Forall₂ Prints pieces parts) :
    Prints (Text.join ',' pieces) (commaSeparated parts) := by
  induction h with
  | nil => exact fun _ _ _ hts => hts
  | @cons piece part pieces parts hpiece hpieces ih =>
    cases hpieces with
    | nil => simpa [commaSeparated, Text.join] using hpiece
    | @cons piece' part' pieces parts hpiece' hpieces =>
      intro rest ts hrest hts
      rw [Text.join, commaSeparated_cons_cons, List.append_assoc, List.append_assoc]
      · refine hpiece _ _ ?_ (.mark rfl (fun _ => rfl) (ih rest ts hrest hts))
        rintro _ ⟨⟩
        exact .inl rfl
      · simp

theorem prints_enclose {first last : Char} {openMark closeMark : Token} (indent : Nat)
    (hfirst : isSpace first = false) (hlast : isSpace last = false)
    (hopen : ∀ rest, token? first rest = some (openMark, rest))
    (hclose : ∀ rest, token? last rest = some (closeMark, rest))
    {pieces : List (List Char)} {parts : List (List Token)}
    (h : List.Forall₂ Prints pieces parts) :
    Prints (enclose first last indent pieces)
      (openMark :: (commaSeparated parts ++ [closeMark])) := by
  intro rest ts hrest hts
  have hend : Tokenizes (last :: rest) (closeMark :: ts) := .mark hlast hclose hts
  rw [enclose]
  cases h with
  | nil => exact .mark hfirst hopen hend
  | @cons piece part pieces parts hpiece hpieces =>
    have hjoin := prints_join (.cons hpiece hpieces) _ _ (endsValue_newLine indent (last :: rest))
      (hend.newLine indent)
    refine .mark hfirst hopen ?_
    simpa using hjoin

theorem prints_print {v : Json} (hexact : ∀ n ∈ v.numbers, n.IsExact) (indent : Nat) :
    Prints (print indent v) v.tokens := by
  induction v generalizing indent with
  | null => exact fun rest ts _ hts => .token rfl rfl (List.suffix_append ['u', 'l', 'l'] rest) hts
  | bool b =>
    intro rest ts _ hts
    cases b with
    | true => exact .token rfl rfl (List.suffix_append ['r', 'u', 'e'] rest) hts
    | false => exact .token rfl rfl (List.suffix_append ['a', 'l', 's', 'e'] rest) hts
  | number n =>
    obtain ⟨c, cs, hprint, hspace, htoken⟩ := token?_number (hexact n List.mem_cons_self)
    intro rest ts hrest hts
    rw [print, hprint]
    exact .token hspace (htoken rest hrest) (List.suffix_append cs rest) hts
  | string s => exact fun rest ts _ hts => .string s hts
  | array items ih =>
    rw [forall_mem_numbers_array] at hexact
    rw [print, tokens, printItems_eq_map, itemTokens_eq_map]
    refine prints_enclose indent rfl rfl (fun _ => rfl) (fun _ => rfl) ?_
    rw [List.forall₂_map_left_iff, List.forall₂_map_right_iff, List.forall₂_same]
    exact fun v hv => (ih v hv (hexact v hv) _).newLine _
  | object fields ih =>
    rw [forall_mem_numbers_object] at hexact
    rw [print, tokens, printFields_eq_map, fieldTokens_eq_map]
    refine prints_enclose indent rfl rfl (fun _ => rfl) (fun _ => rfl) ?_
    rw [List.forall₂_map_left_iff, List.forall₂_map_right_iff, List.forall₂_same]
    intro field hfield
    rw [List.append_assoc]
    exact ((ih field hfield (hexact field hfield) _).field field.1).newLine _

theorem tokens?_print {v : Json} (hexact : ∀ n ∈ v.numbers, n.IsExact) :
    tokens? (print 0 v) = some v.tokens := by
  have hend : EndsValue [] := by
    rintro _ ⟨⟩
  have hprint := prints_print hexact 0 [] [] hend .nil
  rw [List.append_nil, List.append_nil] at hprint
  exact hprint _ (Nat.le_refl _)

open ReadState (step?)

theorem exists_commaSeparated_cons (part : List Token) (parts : List (List Token)) :
    ∃ more, commaSeparated (part :: parts) = part ++ more := by
  cases parts with
  | nil => exact ⟨[], by simp [commaSeparated]⟩
  | cons next parts => exact ⟨_, commaSeparated_cons_cons part next parts⟩

theorem foldlM_items {stack : List Frame} {items : List Json} (hne : items ≠ [])
    (h : ∀ v ∈ items, ∀ frame, v.tokens.foldlM step? (.value (frame :: stack)) =
      some (.ended v (frame :: stack))) (earlier : List Json) :
    (commaSeparated (items.map tokens) ++ [Token.closeBracket]).foldlM step?
        (.value (.array earlier :: stack)) =
      some (.ended (.array (earlier.reverse ++ items)) stack) := by
  induction items generalizing earlier with
  | nil => exact absurd rfl hne
  | cons v items ih =>
    obtain ⟨hv, hitems⟩ := List.forall_mem_cons.1 h
    cases items with
    | nil => simp [commaSeparated, List.foldlM_append, hv, step?]
    | cons w items =>
      rw [List.map_cons, List.map_cons, commaSeparated_cons_cons, List.append_assoc,
        List.foldlM_append, hv]
      simpa [step?] using ih (List.cons_ne_nil w items) hitems (v :: earlier)

theorem foldlM_fields {stack : List Frame} {fields : List (String × Json)} (hne : fields ≠ [])
    (h : ∀ field ∈ fields, ∀ frame, field.2.tokens.foldlM step? (.value (frame :: stack)) =
      some (.ended field.2 (frame :: stack))) (earlier : List (String × Json)) :
    (commaSeparated (fields.map fun field => Token.string field.1 :: .colon :: field.2.tokens)
        ++ [Token.closeBrace]).foldlM step? (.key earlier stack) =
      some (.ended (.object (earlier.reverse ++ fields)) stack) := by
  induction fields generalizing earlier with
  | nil => exact absurd rfl hne
  | cons field fields ih =>
    obtain ⟨hfield, hfields⟩ := List.forall_mem_cons.1 h
    cases fields with
    | nil => simp [commaSeparated, List.foldlM_append, hfield, step?]
    | cons field' fields =>
      rw [List.map_cons, List.map_cons, commaSeparated_cons_cons, List.append_assoc,
        List.foldlM_append]
      simpa [step?, hfield] using ih (List.cons_ne_nil field' fields) hfields (field :: earlier)

theorem exists_tokens_eq_cons (v : Json) : ∃ t ts, v.tokens = t :: ts ∧ t ≠ .closeBracket := by
  cases v <;> exact ⟨_, _, rfl, nofun⟩

theorem step?_arrayStart {t : Token} (h : t ≠ .closeBracket) (stack : List Frame) :
    step? (.arrayStart stack) t = step? (.value (.array [] :: stack)) t := by
  cases t with
  | closeBracket => exact absurd rfl h
  | _ => rfl

/-- A value that is not nested too deeply is read, and the stack below it is left as it was. -/
theorem foldlM_tokens {v : Json} {n : Nat} (h : v.Fits n) {stack : List Frame}
    (hdepth : n + stack.length ≤ maxDepth) :
    v.tokens.foldlM step? (.value stack) = some (.ended v stack) := by
  induction v generalizing n stack with
  | null | bool b | number x | string s => rfl
  | array items ih =>
    cases h with
    | @array n _ hitems =>
      have hroom : stack.length < maxDepth := by omega
      have hopen : step? (.value stack) .openBracket = some (.arrayStart stack) := if_pos hroom
      have hread : ∀ v ∈ items, ∀ frame, v.tokens.foldlM step? (.value (frame :: stack)) =
          some (.ended v (frame :: stack)) :=
        fun v hv frame => ih v hv (hitems v hv) (by rw [List.length_cons]; omega)
      rw [tokens, itemTokens_eq_map, List.foldlM_cons, hopen]
      cases items with
      | nil => rfl
      | cons w items =>
        have hrun := foldlM_items (List.cons_ne_nil w items) hread []
        obtain ⟨more, hmore⟩ := exists_commaSeparated_cons w.tokens (items.map tokens)
        obtain ⟨t, ts, hts, hne⟩ := exists_tokens_eq_cons w
        rw [List.map_cons, hmore, hts, List.cons_append, List.cons_append] at hrun ⊢
        rw [List.foldlM_cons] at hrun
        rwa [Option.bind_eq_bind, Option.bind_some, List.foldlM_cons, step?_arrayStart hne]
  | object fields ih =>
    cases h with
    | @object n _ hfields =>
      have hroom : stack.length < maxDepth := by omega
      have hopen : step? (.value stack) .openBrace = some (.objectStart stack) := if_pos hroom
      have hread : ∀ field ∈ fields, ∀ frame,
          field.2.tokens.foldlM step? (.value (frame :: stack)) =
            some (.ended field.2 (frame :: stack)) :=
        fun field hfield frame =>
          ih field hfield (hfields field hfield) (by rw [List.length_cons]; omega)
      rw [tokens, fieldTokens_eq_map, List.foldlM_cons, hopen]
      cases fields with
      | nil => rfl
      | cons field fields =>
        have hrun := foldlM_fields (List.cons_ne_nil field fields) hread []
        obtain ⟨more, hmore⟩ := exists_commaSeparated_cons
          (.string field.1 :: .colon :: field.2.tokens) (fields.map fun field =>
            Token.string field.1 :: .colon :: field.2.tokens)
        rw [List.map_cons, hmore] at hrun ⊢
        exact hrun

theorem parse?_pretty {v : Json} (hexact : ∀ n ∈ v.numbers, n.IsExact) (hfits : v.Fits maxDepth) :
    parse? v.pretty = some v := by
  rw [parse?, pretty, String.toList_ofList, tokens?_print hexact, Option.bind_some, ofTokens?,
    foldlM_tokens hfits (Nat.le_refl _)]
  rfl

end CommitPolicy.Json
