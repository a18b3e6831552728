import CommitPolicy.Text.Word
import Mathlib.Data.List.Chain

namespace CommitPolicy.Text

def IsTransition (c d : Char) : Prop := (isLower c ∨ c.isDigit) ∧ isUpper d

theorem isTransition_iff {c d : Char} : IsTransition c d ↔ endsHump c ∧ isUpper d := by
  rw [IsTransition, endsHump, Bool.or_eq_true]

structure Piece where
  gap : List Char
  word : List Char
  separates : ∀ c ∈ gap, ¬ isAlphanumeric c
  word_ne_nil : word ≠ []
  alphanumeric : ∀ c ∈ word, isAlphanumeric c
  unbroken : word.IsChain fun c d => ¬ IsTransition c d

namespace Piece

def text (p : Piece) : List Char := p.gap ++ p.word

def SetOff (p q : Piece) : Prop :=
  q.gap ≠ [] ∨ ∃ c ∈ p.word.getLast?, ∃ d ∈ q.word.head?, IsTransition c d

def ofLetter (c : Char) (hc : isAlphanumeric c) : Piece :=
  ⟨[], [c], by simp, by simp, by simpa using hc, List.isChain_singleton c⟩

def addGap (p : Piece) (c : Char) (hc : ¬ isAlphanumeric c) : Piece where
  gap := c :: p.gap
  word := p.word
  separates := List.forall_mem_cons.2 ⟨hc, p.separates⟩
  word_ne_nil := p.word_ne_nil
  alphanumeric := p.alphanumeric
  unbroken := p.unbroken

def addLetter (p : Piece) (c : Char) (hc : isAlphanumeric c)
    (hjoin : ∀ d ∈ p.word.head?, ¬ IsTransition c d) : Piece where
  gap := []
  word := c :: p.word
  separates := by simp
  word_ne_nil := List.cons_ne_nil c p.word
  alphanumeric := List.forall_mem_cons.2 ⟨hc, p.alphanumeric⟩
  unbroken := List.isChain_cons.2 ⟨hjoin, p.unbroken⟩

theorem SetOff.addLetter {p q : Piece} {c : Char} {hc : isAlphanumeric c}
    {hjoin : ∀ d ∈ p.word.head?, ¬ IsTransition c d} (h : p.SetOff q) :
    (p.addLetter c hc hjoin).SetOff q := by
  have hlast : (c :: p.word).getLast? = p.word.getLast? :=
    List.getLast?_cons_of_ne_nil p.word_ne_nil
  rw [SetOff, Piece.addLetter, hlast]
  exact h

theorem mem_head?_word {q : Piece} {d : Char} {cs : List Char} (hd : isAlphanumeric d)
    (h : d ∈ (q.text ++ cs).head?) : q.gap = [] ∧ d ∈ q.word.head? := by
  rw [text, List.append_assoc] at h
  cases hgap : q.gap with
  | cons c gap =>
    rw [hgap] at h
    obtain rfl : c = d := Option.some.inj h
    exact absurd hd (q.separates c (hgap ▸ List.mem_cons_self))
  | nil =>
    rw [hgap, List.nil_append, List.head?_append_of_ne_nil _ q.word_ne_nil] at h
    exact ⟨rfl, h⟩

theorem filter_text (p : Piece) : p.text.filter isAlphanumeric = p.word := by
  rw [text, List.filter_append, List.filter_eq_nil_iff.2 p.separates,
    List.filter_eq_self.2 p.alphanumeric, List.nil_append]

end Piece

/-- The text is cut into these pieces, with no letter or digit behind the last. -/
structure Segments (cs : List Char) (pieces : List Piece) (rest : List Char) : Prop where
  text : pieces.flatMap Piece.text ++ rest = cs
  separates : ∀ c ∈ rest, ¬ isAlphanumeric c
  setOff : pieces.IsChain Piece.SetOff

variable {cs rest word : List Char} {pieces : List Piece} {p : Piece} {c : Char}

theorem Segments.tail (h : Segments cs (p :: pieces) rest) :
    Segments (pieces.flatMap Piece.text ++ rest) pieces rest :=
  ⟨rfl, h.separates, h.setOff.tail⟩

theorem Segments.flatten (h : Segments cs pieces rest) :
    (pieces.map (·.word)).flatten = cs.filter isAlphanumeric := by
  rw [← h.text, List.filter_append, List.filter_eq_nil_iff.2 h.separates, List.append_nil,
    List.filter_flatMap, ← List.flatMap_def]
  simp only [Piece.filter_text]

theorem Segments.cons_separator (hc : ¬ isAlphanumeric c) (h : Segments cs pieces rest) :
    ∃ pieces rest, Segments (c :: cs) pieces rest := by
  cases pieces with
  | nil =>
    refine ⟨[], c :: rest, congrArg (c :: ·) h.text, ?_, List.isChain_nil⟩
    exact List.forall_mem_cons.2 ⟨hc, h.separates⟩
  | cons p pieces =>
    obtain ⟨hhead, htail⟩ := List.isChain_cons.1 h.setOff
    exact ⟨p.addGap c hc :: pieces, rest, congrArg (c :: ·) h.text, h.separates,
      List.isChain_cons.2 ⟨hhead, htail⟩⟩

theorem Segments.cons_letter (hc : isAlphanumeric c) (h : Segments cs pieces rest) :
    ∃ pieces rest, Segments (c :: cs) pieces rest := by
  by_cases hset : ∀ p ∈ pieces.head?, (Piece.ofLetter c hc).SetOff p
  · refine ⟨.ofLetter c hc :: pieces, rest, congrArg (c :: ·) h.text, h.separates, ?_⟩
    exact List.isChain_cons.2 ⟨hset, h.setOff⟩
  · cases pieces with
    | nil => simp at hset
    | cons p pieces =>
      rw [List.head?_cons] at hset
      obtain ⟨hgap, hjoin⟩ : p.gap = [] ∧ ∀ d ∈ p.word.head?, ¬ IsTransition c d := by
        simpa [Piece.SetOff, Piece.ofLetter] using hset
      refine ⟨p.addLetter c hc hjoin :: pieces, rest, ?_, h.separates, ?_⟩
      · rw [← h.text, List.flatMap_cons, List.flatMap_cons, Piece.text, Piece.text, hgap]
        rfl
      · obtain ⟨hhead, htail⟩ := List.isChain_cons.1 h.setOff
        exact List.isChain_cons.2 ⟨fun q hq => (hhead q hq).addLetter, htail⟩

theorem exists_segments (cs : List Char) : ∃ pieces rest, Segments cs pieces rest := by
  induction cs with
  | nil => exact ⟨[], [], rfl, by simp, List.isChain_nil⟩
  | cons c cs ih =>
    obtain ⟨pieces, rest, h⟩ := ih
    by_cases hc : isAlphanumeric c
    · exact h.cons_letter hc
    · exact h.cons_separator hc

theorem words_gap_append {gap : List Char} (h : ∀ c ∈ gap, ¬ isAlphanumeric c) (cs : List Char) :
    words (gap ++ cs) = words cs := by
  induction gap with
  | nil => rfl
  | cons c gap ih =>
    obtain ⟨hc, hgap⟩ := List.forall_mem_cons.1 h
    rw [List.cons_append, words, wordsAfter, if_neg hc]
    exact ih hgap

theorem wordsAfter_append {more : List Char} (hmore : ∀ d ∈ more, isAlphanumeric d)
    (hchain : (c :: more).IsChain fun c d => ¬ IsTransition c d) (cs : List Char) :
    wordsAfter (word ++ [c]) (endsHump c) (more ++ cs) =
      wordsAfter (word ++ c :: more) (endsHump ((c :: more).getLast (List.cons_ne_nil c more)))
        cs := by
  induction more generalizing word c with
  | nil => rfl
  | cons d more ih =>
    obtain ⟨hd, hmore⟩ := List.forall_mem_cons.1 hmore
    obtain ⟨hcd, hchain⟩ := List.isChain_cons_cons.1 hchain
    have hgoes : (isUpper d && endsHump c) = false := by
      rw [isTransition_iff] at hcd
      grind
    rw [List.cons_append, wordsAfter, if_pos hd, hgoes, Bool.false_and, if_neg Bool.false_ne_true,
      ih hmore hchain, List.getLast_cons_cons, List.append_assoc, List.singleton_append]

/-- Where a word cannot go on, the reader puts it out and starts afresh. -/
theorem wordsAfter_of_ends {hump : Bool} (hword : word ≠ [])
    (h : ∀ d ∈ cs.head?, isAlphanumeric d → hump ∧ isUpper d) :
    wordsAfter word hump cs = word :: words cs := by
  have hword : word.isEmpty = false := by simpa using hword
  cases cs with
  | nil => rw [wordsAfter, hword]; rfl
  | cons d cs =>
    by_cases hd : isAlphanumeric d
    · obtain ⟨hhump, hupper⟩ := h d rfl hd
      simp [words, wordsAfter, hd, hhump, hupper, hword]
    · simp [words, wordsAfter, hd, hword]

theorem words_text_append (p : Piece) (h : ∀ d ∈ cs.head?, isAlphanumeric d →
    ∃ c ∈ p.word.getLast?, IsTransition c d) : words (p.text ++ cs) = p.word :: words cs := by
  rw [Piece.text, List.append_assoc, words_gap_append p.separates]
  obtain ⟨c, more, hw⟩ := List.exists_cons_of_ne_nil p.word_ne_nil
  have halnum := p.alphanumeric
  have hchain := p.unbroken
  rw [hw] at halnum hchain h ⊢
  obtain ⟨hc, hmore⟩ := List.forall_mem_cons.1 halnum
  have hstart : words (c :: more ++ cs) = wordsAfter ([] ++ [c]) (endsHump c) (more ++ cs) := by
    simp [words, wordsAfter, hc]
  rw [hstart, wordsAfter_append hmore hchain]
  refine wordsAfter_of_ends (List.cons_ne_nil c more) fun d hd hdalnum => ?_
  obtain ⟨last, hlast, htransition⟩ := h d hd hdalnum
  obtain rfl : (c :: more).getLast (List.cons_ne_nil c more) = last := by
    simpa [List.getLast?_eq_some_getLast] using hlast
  exact isTransition_iff.1 htransition

theorem Segments.words_eq (h : Segments cs pieces rest) : words cs = pieces.map (·.word) := by
  induction pieces generalizing cs with
  | nil =>
    rw [← h.text, List.flatMap_nil, List.nil_append, ← List.append_nil rest,
      words_gap_append h.separates]
    rfl
  | cons p pieces ih =>
    rw [← h.text, List.flatMap_cons, List.append_assoc, List.map_cons, ← ih h.tail]
    apply words_text_append
    intro d hd hdalnum
    cases pieces with
    | nil => exact absurd hdalnum (h.separates d (List.mem_of_mem_head? hd))
    | cons q pieces =>
      rw [List.flatMap_cons, List.append_assoc] at hd
      obtain ⟨hgap, hd⟩ := Piece.mem_head?_word hdalnum hd
      obtain ⟨c, hc, d', hd', htransition⟩ :=
        (List.isChain_cons_cons.1 h.setOff).1.resolve_left (not_not.2 hgap)
      obtain rfl : d' = d := Option.mem_unique hd' hd
      exact ⟨c, hc, htransition⟩

/-- The words of a text are those of any cut of it: none is empty, together they are the letters and
digits of the text in order, none goes on behind a transition, and each is set off from the next. -/
theorem words_segment_text (cs : List Char) :
    [] ∉ words cs ∧
    (words cs).flatten = cs.filter isAlphanumeric ∧
    (∀ w ∈ words cs, w.IsChain fun c d => ¬ IsTransition c d) ∧
    ∀ ws, (∃ pieces rest, Segments cs pieces rest ∧ pieces.map (·.word) = ws) ↔ ws = words cs := by
  obtain ⟨pieces, rest, h⟩ := exists_segments cs
  have hwords := h.words_eq
  refine ⟨?_, ?_, ?_, fun ws => ⟨?_, ?_⟩⟩
  · rw [hwords, List.mem_map]
    rintro ⟨p, -, hp⟩
    exact p.word_ne_nil hp
  · rw [hwords, h.flatten]
  · rw [hwords, List.forall_mem_map]
    exact fun p _ => p.unbroken
  · rintro ⟨pieces', rest', h', rfl⟩
    exact h'.words_eq.symm
  · rintro rfl
    exact ⟨pieces, rest, h, hwords.symm⟩

example : (words "fooBar HTTPServer2Go".toList).map String.ofList =
    ["foo", "Bar", "HTTPServer2", "Go"] := by decide

end CommitPolicy.Text
