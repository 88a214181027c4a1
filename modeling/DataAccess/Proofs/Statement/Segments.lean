/-
The segments of a statement. Read from the left, a statement falls into
quoted text, double colons, parameter tokens, and single characters in
between; each is as long as it can be. `Segmented` says so rule by rule,
`segmentsOf` finds the segments, and `segmented_iff` says that there is one
way only.

# Tokens and gaps

The tokens stand between gaps, of which there is always one more than there
are tokens. Weaving the gaps with the tokens gives the statement; weaving
them with question marks gives what is sent instead (`weave_gaps`).
-/
import DataAccess.Text.Ascii
import Mathlib.Data.List.TakeWhile

namespace DataAccess

-- ================================================================= segments

/-- One segment of a statement. -/
inductive Segment where
  /-- Quoted text with its quotes; the closing one may be missing at the end
  of the statement. -/
  | quoted (text : List Char)
  | cast
  | token (name : List Char)
  | other (c : Char)
  deriving DecidableEq, Repr

namespace Segment

/-- The text of a segment. -/
def text : Segment → List Char
  | .quoted text => text
  | .cast => [':', ':']
  | .token name => ':' :: name
  | .other c => [c]

/-- The text of a segment with a question mark for a token. -/
def placed : Segment → List Char
  | .token _ => ['?']
  | s => s.text

/-- The name of a token. -/
def name? : Segment → Option (List Char)
  | .token name => some name
  | _ => none

end Segment

/-- Whether a character opens quoted text. -/
def isQuote (c : Char) : Bool :=
  c == '\'' || c == '"'

/-- A name starts like a word and goes on like one. -/
def IsName : List Char → Prop
  | [] => False
  | c :: cs => Text.isWordStart c = true ∧ ∀ d ∈ cs, Text.isWordChar d = true

/-- How a text falls into segments. -/
inductive Segmented : List Char → List Segment → Prop where
  | nil : Segmented [] []
  /-- Quoted text ends with the next quote of the same kind. -/
  | quoted {quote : Char} {inside rest : List Char}
      {segments : List Segment} (hopens : isQuote quote = true)
      (hinside : quote ∉ inside) (hrest : Segmented rest segments) :
      Segmented (quote :: (inside ++ quote :: rest))
        (.quoted (quote :: (inside ++ [quote])) :: segments)
  /-- Without such a quote it goes on to the end. -/
  | unclosed {quote : Char} {inside : List Char}
      (hopens : isQuote quote = true) (hinside : quote ∉ inside) :
      Segmented (quote :: inside) [.quoted (quote :: inside)]
  | cast {rest : List Char} {segments : List Segment}
      (hrest : Segmented rest segments) :
      Segmented (':' :: ':' :: rest) (.cast :: segments)
  /-- The name of a token ends where no word character follows. -/
  | token {name rest : List Char} {segments : List Segment}
      (hname : IsName name)
      (hlongest : ∀ c ∈ rest.head?, Text.isWordChar c = false)
      (hrest : Segmented rest segments) :
      Segmented (':' :: (name ++ rest)) (.token name :: segments)
  /-- What starts none of these is a segment by itself. -/
  | other {c : Char} {rest : List Char} {segments : List Segment}
      (hquote : isQuote c = false)
      (hcolon : c = ':' →
        ∀ d ∈ rest.head?, d ≠ ':' ∧ Text.isWordStart d = false)
      (hrest : Segmented rest segments) :
      Segmented (c :: rest) (.other c :: segments)

/-- The segments, put together, are the text. -/
theorem Segmented.texts {cs : List Char} {segments : List Segment}
    (h : Segmented cs segments) : segments.flatMap Segment.text = cs := by
  induction h with
  | nil => rfl
  | quoted _ _ _ ih => simp [Segment.text, ih]
  | unclosed _ _ => simp [Segment.text]
  | cast _ ih => simp [Segment.text, ih]
  | token _ _ _ ih => simp [Segment.text, ih]
  | other _ _ _ ih => simp [Segment.text, ih]

-- ======================================================== finding the segments

/-- Quoted text after its opening quote, up to and with the next quote of
the same kind, or to the end; and what comes after it. -/
def quotedRest (quote : Char) (cs : List Char) : List Char × List Char :=
  match cs.dropWhile (· != quote) with
  | [] => (cs, [])
  | q :: rest => (cs.takeWhile (· != quote) ++ [q], rest)

/-- What follows a quoted run is no longer than what it is in. -/
theorem length_quotedRest (quote : Char) (cs : List Char) :
    (quotedRest quote cs).2.length ≤ cs.length := by
  unfold quotedRest
  have hsuffix := (List.dropWhile_suffix (· != quote) (l := cs)).length_le
  cases hdrop : cs.dropWhile (· != quote) with
  | nil => exact Nat.zero_le _
  | cons q rest =>
      rw [hdrop, List.length_cons] at hsuffix
      show rest.length ≤ cs.length
      omega

/-- Without a quote inside, quoted text goes on. -/
theorem bne_of_not_mem {quote : Char} {inside : List Char}
    (h : quote ∉ inside) : ∀ c ∈ inside, (c != quote) = true :=
  fun _ hc => bne_iff_ne.mpr (ne_of_mem_of_not_mem hc h)

theorem takeWhile_bne_append {quote : Char} {inside : List Char}
    (h : quote ∉ inside) (rest : List Char) :
    (inside ++ quote :: rest).takeWhile (· != quote) = inside := by
  rw [List.takeWhile_append_of_pos (bne_of_not_mem h)]
  simp

/-- A run that is not closed goes to the end. -/
theorem quotedRest_of_not_mem {quote : Char} {inside : List Char}
    (h : quote ∉ inside) : quotedRest quote inside = (inside, []) := by
  have hdrop := List.dropWhile_eq_nil_iff.mpr (bne_of_not_mem h)
  unfold quotedRest
  rw [hdrop]

/-- A run ends with its quote. -/
theorem quotedRest_append {quote : Char} {inside : List Char}
    (h : quote ∉ inside) (rest : List Char) :
    quotedRest quote (inside ++ quote :: rest)
      = (inside ++ [quote], rest) := by
  unfold quotedRest
  rw [takeWhile_bne_append h, List.dropWhile_append_of_pos (bne_of_not_mem h)]
  simp

/-- The segments of a text, from the left, each as long as it can be. -/
def segmentsOf : List Char → List Segment
  | [] => []
  | c :: rest =>
    if isQuote c then
      .quoted (c :: (quotedRest c rest).1) :: segmentsOf (quotedRest c rest).2
    else if c = ':' ∧ rest.head? = some ':' then
      .cast :: segmentsOf rest.tail
    else if c = ':' ∧ rest.head?.any Text.isWordStart then
      .token (rest.takeWhile Text.isWordChar)
        :: segmentsOf (rest.dropWhile Text.isWordChar)
    else .other c :: segmentsOf rest
termination_by cs => cs.length
decreasing_by
  · have := length_quotedRest c rest
    simp only [List.length_cons]
    omega
  · simp only [List.length_cons, List.length_tail]
    omega
  · have := (List.dropWhile_suffix Text.isWordChar (l := rest)).length_le
    simp only [List.length_cons]
    omega
  · simp only [List.length_cons]
    omega

/-- A word, as far as it goes, is a name if it starts like one. -/
theorem isName_takeWhile {cs : List Char}
    (hstart : cs.head?.any Text.isWordStart = true) :
    IsName (cs.takeWhile Text.isWordChar) := by
  cases cs with
  | nil => cases hstart
  | cons c cs =>
      rw [List.takeWhile_cons_of_pos (Text.isWordChar_of_isWordStart hstart)]
      exact ⟨hstart, fun d hd => List.mem_takeWhile_imp hd⟩

/-- What is dropped does not begin what is left. -/
theorem not_head?_dropWhile (p : Char → Bool) (cs : List Char) :
    ∀ c ∈ (cs.dropWhile p).head?, p c = false := by
  intro c hc
  have h := List.head?_dropWhile_not p cs
  rw [Option.mem_def] at hc
  rw [hc] at h
  simpa using h

/-- The segments that are found follow the rules. -/
theorem segmented_segmentsOf (cs : List Char) :
    Segmented cs (segmentsOf cs) := by
  fun_induction segmentsOf cs with
  | case1 => exact .nil
  | case2 c rest hquote ih =>
      by_cases hmem : c ∈ rest
      · obtain ⟨inside, rest', rfl, hinside⟩ :=
          List.eq_append_cons_of_mem hmem
        rw [quotedRest_append hinside] at ih ⊢
        exact .quoted hquote hinside ih
      · rw [quotedRest_of_not_mem hmem] at ih ⊢
        rw [segmentsOf]
        exact .unclosed hquote hmem
  | case3 c rest hquote hcast ih =>
      obtain ⟨rfl, hhead⟩ := hcast
      obtain ⟨rest', rfl⟩ := List.head?_eq_some_iff.mp hhead
      exact .cast ih
  | case4 c rest hquote hcast htoken ih =>
      obtain ⟨rfl, hstart⟩ := htoken
      have h := Segmented.token (isName_takeWhile hstart)
        (not_head?_dropWhile _ rest) ih
      rwa [List.takeWhile_append_dropWhile] at h
  | case5 c rest hquote hcast htoken ih =>
      refine .other (by simpa using hquote) (fun hc d hd => ⟨?_, ?_⟩) ih
      · rintro rfl
        exact hcast ⟨hc, hd⟩
      · cases hstart : Text.isWordStart d with
        | false => rfl
        | true =>
            refine absurd ⟨hc, ?_⟩ htoken
            rw [Option.mem_def.mp hd]
            exact hstart

/-- A name is a word as far as it goes. -/
theorem span_name {name rest : List Char} (hname : IsName name)
    (hlongest : ∀ c ∈ rest.head?, Text.isWordChar c = false) :
    (name ++ rest).takeWhile Text.isWordChar = name
      ∧ (name ++ rest).dropWhile Text.isWordChar = rest := by
  have hword : ∀ c ∈ name, Text.isWordChar c = true := by
    cases name with
    | nil => cases hname
    | cons d name =>
        intro c hc
        rcases List.mem_cons.mp hc with rfl | hc
        · exact Text.isWordChar_of_isWordStart hname.1
        · exact hname.2 c hc
  rw [List.takeWhile_append_of_pos hword, List.dropWhile_append_of_pos hword]
  cases rest with
  | nil => simp
  | cons c rest => simp [hlongest c rfl]

/-- A name does not start a cast. -/
theorem head?_name {name : List Char} (hname : IsName name)
    (rest : List Char) :
    (name ++ rest).head? ≠ some ':'
      ∧ (name ++ rest).head?.any Text.isWordStart = true := by
  cases name with
  | nil => cases hname
  | cons d name =>
      refine ⟨?_, hname.1⟩
      rintro ⟨⟩
      cases hname.1

/-- No other segments follow the rules. -/
theorem Segmented.eq_segmentsOf {cs : List Char} {segments : List Segment}
    (h : Segmented cs segments) : segments = segmentsOf cs := by
  induction h with
  | nil => rw [segmentsOf]
  | quoted hopens hinside _ ih =>
      rw [segmentsOf, if_pos hopens, quotedRest_append hinside, ih]
  | unclosed hopens hinside =>
      rw [segmentsOf, if_pos hopens, quotedRest_of_not_mem hinside, segmentsOf]
  | @cast rest segments _ ih =>
      rw [segmentsOf, if_neg (by decide), if_pos ⟨rfl, rfl⟩, ih,
        List.tail_cons]
  | @token name rest _ hname hlongest _ ih =>
      obtain ⟨htake, hdrop⟩ := span_name hname hlongest
      have hhead := head?_name hname rest
      rw [segmentsOf, if_neg (by decide), if_neg (fun h => hhead.1 h.2),
        if_pos ⟨rfl, hhead.2⟩, htake, hdrop, ih]
  | @other c rest segments hquote hcolon _ ih =>
      have hcast : ¬(c = ':' ∧ rest.head? = some ':') :=
        fun h => (hcolon h.1 _ h.2).1 rfl
      have htoken : ¬(c = ':' ∧ rest.head?.any Text.isWordStart = true) := by
        rintro ⟨hc, hany⟩
        obtain ⟨d, hd, hstart⟩ := (Option.any_eq_true _ _).mp hany
        rw [(hcolon hc d hd).2] at hstart
        cases hstart
      rw [segmentsOf, if_neg (by simp [hquote]), if_neg hcast, if_neg htoken,
        ih]

/-- There is one way to fall into segments. -/
theorem segmented_iff {cs : List Char} {segments : List Segment} :
    Segmented cs segments ↔ segments = segmentsOf cs :=
  ⟨Segmented.eq_segmentsOf, fun h => h ▸ segmented_segmentsOf cs⟩

-- ========================================================== tokens and gaps

/-- The gaps in front of the tokens, between them and after them. -/
def gaps : List Segment → List (List Char)
  | [] => [[]]
  | .token _ :: rest => [] :: gaps rest
  | s :: rest => (gaps rest).modifyHead (s.text ++ ·)

/-- Gaps with a word between each two of them. -/
def weave : List (List Char) → List (List Char) → List Char
  | [], _ => []
  | gap :: _, [] => gap
  | gap :: more, word :: words => gap ++ word ++ weave more words

@[simp]
theorem weave_modifyHead (text : List Char) {gaps : List (List Char)}
    (words : List (List Char)) (h : gaps ≠ []) :
    weave (gaps.modifyHead (text ++ ·)) words = text ++ weave gaps words := by
  cases gaps with
  | nil => exact absurd rfl h
  | cons gap more => cases words <;> simp [weave]

/-- There is one gap more than there are tokens. -/
theorem length_gaps (segments : List Segment) :
    (gaps segments).length
      = (segments.filterMap Segment.name?).length + 1 := by
  fun_induction gaps segments with
  | case1 => rfl
  | case2 name rest ih => simp [Segment.name?, ih]
  | case3 s rest hs ih =>
      have hname : s.name? = none := by
        cases s <;> first | rfl | exact absurd rfl (hs _)
      simp [hname, ih]

/-- There is always something around the names, if only nothing. -/
theorem gaps_ne_nil (segments : List Segment) : gaps segments ≠ [] := by
  have := length_gaps segments
  exact List.ne_nil_of_length_pos (by omega)

/-- The gaps with the tokens between them are the text; with another word
for every token, that word stands where the token stood. -/
theorem weave_gaps (segments : List Segment) :
    weave (gaps segments)
        ((segments.filterMap Segment.name?).map (':' :: ·))
        = segments.flatMap Segment.text
      ∧ weave (gaps segments)
        ((segments.filterMap Segment.name?).map fun _ => ['?'])
        = segments.flatMap Segment.placed := by
  fun_induction gaps segments with
  | case1 => exact ⟨rfl, rfl⟩
  | case2 name rest ih =>
      simp only [List.filterMap_cons, Segment.name?, List.map_cons, weave,
        List.flatMap_cons, Segment.text, Segment.placed, ih,
        List.nil_append, and_self]
  | case3 s rest hs ih =>
      have hname : s.name? = none ∧ s.placed = s.text := by
        cases s <;> first | exact ⟨rfl, rfl⟩ | exact absurd rfl (hs _)
      simp only [List.filterMap_cons, hname, weave_modifyHead _ _
        (gaps_ne_nil rest), List.flatMap_cons, ih, and_self]

end DataAccess
