import ManchesterArcana.Core.Identifier
import Mathlib.Data.List.DropRight
import Mathlib.Data.List.Infix

/-!
# `Core.Spacing` — white space in a text

A text is a list of characters here. It is trimmed, split into words and into lines; what is so found stands in the text
between white space (`Stands`). Two texts are spaced differently (`Respaced`) when they have the same visible characters,
and white space at the same places, however much of it. A text with its words one space apart is a respaced one
(`respaced_collapse`).
-/

namespace ManchesterArcana

open List (append_assoc append_nil concat_eq_append cons_append cons_ne_nil forall_mem_cons mem_cons mem_cons_self
  reverse_cons)
open List (intercalate_cons_cons mem_singleton nil_append)
open Bool (not_eq_true)

/-- `str::trim`. -/
def trim (text : List Char) : List Char := (text.dropWhile isWhiteSpace).rdropWhile isWhiteSpace

/-- `str::split_whitespace`. -/
def splitWhitespace (text : List Char) : List (List Char) := (text.splitOnP isWhiteSpace).filter (· ≠ [])

/-- The words one space apart. -/
def collapse (text : List Char) : List Char := [' '].intercalate (splitWhitespace text)

/-- A line that is read backwards, without the carriage return at its end. -/
def dropReturn : List Char → List Char
  | '\r' :: line => line
  | line => line

/-- The lines of a text, behind what was read of its first line, backwards. -/
def linesFrom (line : List Char) : List Char → List (List Char)
  | [] => if line = [] then [] else [line.reverse]
  | c :: rest => if c = '\n' then (dropReturn line).reverse :: linesFrom [] rest else linesFrom (c :: line) rest

/-- `str::lines`. -/
def lines (text : List Char) : List (List Char) := linesFrom [] text

/-! ## Standing between white space -/

/-- What ends in white space, if it is not empty. -/
def EndsInSpace (text : List Char) : Prop := ∀ c ∈ text.getLast?, isWhiteSpace c = true

/-- What begins with white space, if it is not empty. -/
def BeginsWithSpace (text : List Char) : Prop := ∀ c ∈ text.head?, isWhiteSpace c = true

/-- The part stands in the text between white space. -/
def Stands (part text : List Char) : Prop :=
  ∃ before after, text = before ++ part ++ after ∧ EndsInSpace before ∧ BeginsWithSpace after

variable {text part other before after : List Char} {c : Char}

theorem endsInSpace_nil : EndsInSpace [] := fun _ h => by cases h

theorem beginsWithSpace_nil : BeginsWithSpace [] := fun _ h => by cases h

theorem endsInSpace_snoc (hc : isWhiteSpace c = true) : EndsInSpace (before ++ [c]) := by
  intro d hd
  rw [List.getLast?_concat] at hd
  obtain rfl := Option.some.inj hd
  exact hc

theorem beginsWithSpace_cons (hc : isWhiteSpace c = true) : BeginsWithSpace (c :: after) := by
  intro d hd
  obtain rfl := Option.some.inj hd
  exact hc

theorem EndsInSpace.append (h : EndsInSpace before) (h' : EndsInSpace after) : EndsInSpace (before ++ after) := by
  rcases List.eq_nil_or_concat after with rfl | ⟨rest, d, rfl⟩
  · rw [append_nil]
    exact h
  · rw [concat_eq_append, ← append_assoc]
    refine endsInSpace_snoc (h' d ?_)
    rw [concat_eq_append, List.getLast?_concat]
    rfl

theorem BeginsWithSpace.append (h : BeginsWithSpace before) (h' : BeginsWithSpace after) :
    BeginsWithSpace (before ++ after) := by
  cases before with
  | nil => exact h'
  | cons d rest => exact beginsWithSpace_cons (h d rfl)

theorem endsInSpace_of_forall (h : ∀ c ∈ text, isWhiteSpace c = true) : EndsInSpace text :=
  fun c hc => h c (List.mem_of_getLast? hc)

theorem beginsWithSpace_of_forall (h : ∀ c ∈ text, isWhiteSpace c = true) : BeginsWithSpace text :=
  fun c hc => h c (List.mem_of_head? hc)

namespace Stands

theorem refl (text : List Char) : Stands text text :=
  ⟨[], [], by rw [nil_append, append_nil], endsInSpace_nil, beginsWithSpace_nil⟩

theorem trans (h : Stands part other) (h' : Stands other text) : Stands part text := by
  obtain ⟨b, a, rfl, hb, ha⟩ := h
  obtain ⟨b', a', rfl, hb', ha'⟩ := h'
  exact ⟨b' ++ b, a ++ a', by simp only [append_assoc], hb'.append hb, ha.append ha'⟩

theorem isInfix (h : Stands part text) : part <:+: text := by
  obtain ⟨b, a, rfl, -, -⟩ := h
  exact ⟨b, a, rfl⟩

/-- Behind a character of white space. -/
theorem behind (h : Stands part text) (hc : isWhiteSpace c = true) : Stands part (before ++ c :: text) := by
  obtain ⟨b, a, rfl, hb, ha⟩ := h
  refine ⟨before ++ [c] ++ b, a, by simp only [append_assoc, cons_append, nil_append], ?_, ha⟩
  exact (endsInSpace_snoc hc).append hb

end Stands

theorem stands_trim (text : List Char) : Stands (trim text) text := by
  refine ⟨text.takeWhile isWhiteSpace, (text.dropWhile isWhiteSpace).rtakeWhile isWhiteSpace, ?_, ?_, ?_⟩
  · unfold trim
    rw [append_assoc, List.rdropWhile_append_rtakeWhile, List.takeWhile_append_dropWhile]
  · exact endsInSpace_of_forall fun c hc => List.mem_takeWhile_imp hc
  · exact beginsWithSpace_of_forall fun c hc => List.mem_rtakeWhile_imp hc

/-- What is trimmed begins and ends in something to be seen. -/
theorem trim_visible (text : List Char) :
    (∀ c ∈ (trim text).head?, isWhiteSpace c = false) ∧ ∀ c ∈ (trim text).getLast?, isWhiteSpace c = false := by
  constructor
  · intro c hc
    have hprefix : trim text <+: text.dropWhile isWhiteSpace := List.rdropWhile_prefix _ _
    have hc : c ∈ (text.dropWhile isWhiteSpace).head? := by
      cases htrim : trim text with
      | nil =>
        rw [htrim] at hc
        cases hc
      | cons d rest =>
        rw [htrim] at hc hprefix
        obtain ⟨more, hmore⟩ := hprefix
        rw [← hmore]
        exact hc
    have := List.head?_dropWhile_not isWhiteSpace text
    rw [Option.mem_def.mp hc] at this
    simpa using this
  · intro c hc
    unfold trim at hc
    have hne : (text.dropWhile isWhiteSpace).rdropWhile isWhiteSpace ≠ [] := by
      intro h
      rw [h] at hc
      cases hc
    rw [List.getLast?_eq_some_getLast hne] at hc
    obtain rfl := Option.some.inj hc
    exact not_eq_true _ ▸ List.rdropWhile_last_not _ _ hne

theorem trim_of_visible (hfirst : ∀ c ∈ text.head?, isWhiteSpace c = false)
    (hlast : ∀ c ∈ text.getLast?, isWhiteSpace c = false) : trim text = text := by
  have hdrop : text.dropWhile isWhiteSpace = text := by
    cases text with
    | nil => rfl
    | cons c text => exact List.dropWhile_cons_of_neg (not_eq_true _ ▸ hfirst c rfl)
  unfold trim
  rw [hdrop, List.rdropWhile_eq_self_iff]
  intro hne
  exact not_eq_true _ ▸ hlast _ (List.getLast?_eq_some_getLast hne)

/-! ## Words -/

theorem splitWhitespace_append (hc : isWhiteSpace c = true) :
    splitWhitespace (before ++ c :: after) = splitWhitespace before ++ splitWhitespace after := by
  unfold splitWhitespace
  rw [List.splitOnP_append_cons before after hc, List.filter_append]

theorem splitWhitespace_cons (hc : isWhiteSpace c = true) : splitWhitespace (c :: text) = splitWhitespace text :=
  @splitWhitespace_append [] text c hc

/-- The words of a part are words of the text. -/
theorem Stands.splitWhitespace_subset (h : Stands part text) : splitWhitespace part ⊆ splitWhitespace text := by
  obtain ⟨b, a, rfl, hb, ha⟩ := h
  have hafter : splitWhitespace part ⊆ splitWhitespace (part ++ a) := by
    cases a with
    | nil => rw [append_nil]; exact List.Subset.refl _
    | cons d a =>
      rw [splitWhitespace_append (ha d rfl)]
      exact List.subset_append_left _ _
  rw [append_assoc]
  rcases List.eq_nil_or_concat b with rfl | ⟨rest, d, rfl⟩
  · exact hafter
  · rw [concat_eq_append, append_assoc, List.singleton_append,
      splitWhitespace_append (hb d (by rw [concat_eq_append, List.getLast?_concat]; rfl))]
    exact List.Subset.trans hafter (List.subset_append_right _ _)

/-- A character in front of a word belongs to it. -/
theorem splitWhitespace_cons_visible {d : Char} (hc : isWhiteSpace c = false) (hd : isWhiteSpace d = false) :
    ∃ word words, splitWhitespace (d :: text) = word :: words ∧
      splitWhitespace (c :: d :: text) = (c :: word) :: words := by
  obtain ⟨word, words, hsplit⟩ := List.exists_cons_of_ne_nil (List.splitOnP_ne_nil isWhiteSpace text)
  refine ⟨d :: word, words.filter (· ≠ []), ?_, ?_⟩
  · unfold splitWhitespace
    rw [List.splitOnP_cons_eq_if_modifyHead, hd, hsplit]
    exact List.filter_cons_of_pos (decide_eq_true (cons_ne_nil _ _))
  · unfold splitWhitespace
    rw [List.splitOnP_cons_eq_if_modifyHead, hc, List.splitOnP_cons_eq_if_modifyHead, hd, hsplit]
    exact List.filter_cons_of_pos (decide_eq_true (cons_ne_nil _ _))

/-- A character on its own is a word. -/
theorem splitWhitespace_cons_edge (hc : isWhiteSpace c = false) (htext : BeginsWithSpace text) :
    splitWhitespace (c :: text) = [c] :: splitWhitespace text := by
  cases text with
  | nil =>
    unfold splitWhitespace
    rw [List.splitOnP_cons_eq_if_modifyHead, hc]
    rfl
  | cons d text =>
    have hd := htext d rfl
    rw [splitWhitespace_cons hd]
    unfold splitWhitespace
    rw [List.splitOnP_cons_eq_if_modifyHead, hc, List.splitOnP_cons_eq_if_modifyHead, if_pos hd]
    exact List.filter_cons_of_pos (decide_eq_true (cons_ne_nil _ _))

/-- What ends in something to be seen has words. -/
theorem splitWhitespace_ne_nil (htext : text ≠ []) (hlast : ∀ c ∈ text.getLast?, isWhiteSpace c = false) :
    splitWhitespace text ≠ [] := by
  obtain ⟨rest, c, rfl⟩ := List.eq_nil_or_concat text |>.resolve_left htext
  rw [concat_eq_append] at hlast ⊢
  have hc : isWhiteSpace c = false := hlast c (by rw [List.getLast?_concat]; rfl)
  clear hlast htext
  induction rest with
  | nil =>
    rw [nil_append, splitWhitespace_cons_edge hc beginsWithSpace_nil]
    exact cons_ne_nil _ _
  | cons d rest ih =>
    rw [cons_append]
    by_cases hd : isWhiteSpace d = true
    · rw [splitWhitespace_cons hd]
      exact ih
    · rw [not_eq_true] at hd
      by_cases hspace : BeginsWithSpace (rest ++ [c])
      · rw [splitWhitespace_cons_edge hd hspace]
        exact cons_ne_nil _ _
      · cases hrest : rest ++ [c] with
        | nil =>
          rw [hrest] at hspace
          exact absurd beginsWithSpace_nil hspace
        | cons e more =>
          rw [hrest] at hspace
          have he : isWhiteSpace e = false := by
            rw [← not_eq_true]
            exact fun he => hspace (beginsWithSpace_cons he)
          obtain ⟨word, words, -, hwords⟩ := @splitWhitespace_cons_visible more d e hd he
          rw [hwords]
          exact cons_ne_nil _ _

theorem mem_of_mem_splitWhitespace {word : List Char} (hword : word ∈ splitWhitespace text) (hc : c ∈ word) :
    c ∈ text ∧ isWhiteSpace c = false := by
  have hsplit : ∀ word ∈ text.splitOnP isWhiteSpace, ∀ c ∈ word, c ∈ text ∧ isWhiteSpace c = false := by
    clear hword hc
    induction text with
    | nil =>
      intro word hword c hc
      rw [List.splitOnP_nil, mem_singleton] at hword
      rw [hword] at hc
      cases hc
    | cons d text ih =>
      have ih : ∀ word ∈ text.splitOnP isWhiteSpace, ∀ c ∈ word, c ∈ d :: text ∧ isWhiteSpace c = false :=
        fun word hword c hc => ⟨List.mem_cons_of_mem _ (ih word hword c hc).1, (ih word hword c hc).2⟩
      intro word hword c hc
      obtain ⟨first, rest, hfirst⟩ := List.exists_cons_of_ne_nil (List.splitOnP_ne_nil isWhiteSpace text)
      rw [List.splitOnP_cons_eq_if_modifyHead] at hword
      split at hword
      · rcases mem_cons.mp hword with rfl | hword
        · cases hc
        · exact ih word hword c hc
      · next hd =>
        rw [hfirst] at hword ih
        rcases mem_cons.mp hword with rfl | hword
        · rcases mem_cons.mp hc with rfl | hc
          · exact ⟨mem_cons_self, not_eq_true _ ▸ hd⟩
          · exact ih first mem_cons_self c hc
        · exact ih word (List.mem_cons_of_mem _ hword) c hc
  exact hsplit word (List.mem_of_mem_filter hword) c hc

/-! ## Lines -/

theorem dropReturn_spec (line : List Char) : dropReturn line = line ∨ line = '\r' :: dropReturn line := by
  unfold dropReturn
  split
  · exact .inr rfl
  · exact .inl rfl

variable {line read : List Char}

/-- A line stands in its text. -/
theorem linesFrom_stands (hread : '\n' ∉ read) (hline : line ∈ linesFrom read text) :
    Stands line (read.reverse ++ text) ∧ '\n' ∉ line := by
  induction text generalizing read with
  | nil =>
    unfold linesFrom at hline
    split at hline
    · cases hline
    · rw [mem_singleton.mp hline, append_nil]
      exact ⟨.refl _, fun h => hread (List.mem_reverse.mp h)⟩
  | cons c text ih =>
    unfold linesFrom at hline
    split at hline
    · next hc =>
      subst hc
      rcases mem_cons.mp hline with rfl | hline
      · rcases dropReturn_spec read with hdrop | hdrop
        · rw [hdrop]
          refine ⟨⟨[], '\n' :: text, rfl, endsInSpace_nil, beginsWithSpace_cons rfl⟩, ?_⟩
          exact fun h => hread (List.mem_reverse.mp h)
        · refine ⟨⟨[], '\r' :: '\n' :: text, ?_, endsInSpace_nil, beginsWithSpace_cons rfl⟩, fun h => hread ?_⟩
          · conv_lhs => rw [hdrop]
            rw [reverse_cons, append_assoc]
            rfl
          · rw [hdrop]
            exact List.mem_cons_of_mem _ (List.mem_reverse.mp h)
      · obtain ⟨hstands, hnone⟩ := ih List.not_mem_nil hline
        exact ⟨hstands.behind rfl, hnone⟩
    · next hc =>
      have hread : '\n' ∉ c :: read := by
        intro h
        rcases mem_cons.mp h with h | h
        · exact hc h.symm
        · exact hread h
      have hrest := ih hread hline
      rw [reverse_cons, append_assoc] at hrest
      exact hrest

theorem lines_stands (hline : line ∈ lines text) : Stands line text ∧ '\n' ∉ line :=
  linesFrom_stands List.not_mem_nil hline

/-- The lines behind the first one are lines of what comes behind its end. -/
theorem linesFrom_tail (hline : line ∈ (linesFrom read text).tail) :
    ∃ before rest, text = before ++ '\n' :: rest ∧ line ∈ lines rest := by
  induction text generalizing read with
  | nil =>
    unfold linesFrom at hline
    split at hline <;> cases hline
  | cons c text ih =>
    unfold linesFrom at hline
    split at hline
    · next hc => exact ⟨[], text, by rw [hc]; rfl, hline⟩
    · obtain ⟨before, rest, rfl, hmem⟩ := ih hline
      exact ⟨c :: before, rest, rfl, hmem⟩

/-- A line that is written and ended is read. -/
theorem linesFrom_append (hline : '\n' ∉ line) :
    linesFrom read (line ++ '\n' :: text) = (dropReturn (line.reverse ++ read)).reverse :: lines text := by
  induction line generalizing read with
  | nil =>
    unfold linesFrom
    exact if_pos rfl
  | cons c line ih =>
    obtain ⟨hc, hline⟩ := not_or.mp (mt mem_cons.mpr hline)
    rw [cons_append, linesFrom, if_neg (Ne.symm hc), ih hline, reverse_cons, append_assoc]
    rfl

theorem linesFrom_of_not_mem (hline : '\n' ∉ line) :
    linesFrom read line = if line.reverse ++ read = [] then [] else [(line.reverse ++ read).reverse] := by
  induction line generalizing read with
  | nil => rfl
  | cons c line ih =>
    obtain ⟨hc, hline⟩ := not_or.mp (mt mem_cons.mpr hline)
    rw [linesFrom, if_neg (Ne.symm hc), ih hline, reverse_cons, append_assoc]
    rfl

/-- **The lines of lines put together** stand in them. -/
theorem lines_join_stands {ls : List (List Char)} (hls : ∀ line ∈ ls, '\n' ∉ line)
    (hline : line ∈ lines (['\n'].intercalate ls)) : ∃ whole ∈ ls, Stands line whole := by
  induction ls with
  | nil => cases hline
  | cons first ls ih =>
    obtain ⟨hfirst, hls⟩ := forall_mem_cons.mp hls
    cases ls with
    | nil =>
      rw [List.intercalate_singleton, lines, linesFrom_of_not_mem hfirst, append_nil] at hline
      split at hline
      · cases hline
      · rw [mem_singleton.mp hline, List.reverse_reverse]
        exact ⟨first, mem_cons_self, .refl _⟩
    | cons second ls =>
      have hjoin : ['\n'].intercalate (first :: second :: ls) =
          first ++ '\n' :: ['\n'].intercalate (second :: ls) := by
        rw [intercalate_cons_cons, append_assoc]
        rfl
      rw [hjoin, lines, linesFrom_append hfirst, append_nil] at hline
      rcases mem_cons.mp hline with rfl | hline
      · refine ⟨first, mem_cons_self, ?_⟩
        rcases dropReturn_spec first.reverse with hdrop | hdrop
        · rw [hdrop, List.reverse_reverse]
          exact .refl _
        · refine ⟨[], ['\r'], ?_, endsInSpace_nil, beginsWithSpace_cons rfl⟩
          have hreverse := congrArg List.reverse hdrop
          rw [List.reverse_reverse, reverse_cons] at hreverse
          exact hreverse
      · obtain ⟨whole, hwhole, hstands⟩ := ih hls hline
        exact ⟨whole, List.mem_cons_of_mem _ hwhole, hstands⟩

/-! ## Spacing -/

/-- **The same visible characters, and white space at the same places**, however much of it. -/
inductive Respaced : List Char → List Char → Prop where
  | nil : Respaced [] []
  | visible {c : Char} {text other : List Char} :
      isWhiteSpace c = false → Respaced text other → Respaced (c :: text) (c :: other)
  | gap {gap gap' text other : List Char} : gap ≠ [] → gap' ≠ [] → (∀ c ∈ gap, isWhiteSpace c = true) →
      (∀ c ∈ gap', isWhiteSpace c = true) → Respaced text other → Respaced (gap ++ text) (gap' ++ other)

namespace Respaced

theorem symm (h : Respaced text other) : Respaced other text := by
  induction h with
  | nil => exact .nil
  | visible hc _ ih => exact .visible hc ih
  | gap hne hne' hgap hgap' _ ih => exact .gap hne' hne hgap' hgap ih

theorem nil_left (h : Respaced [] other) : other = [] := by
  generalize htext : ([] : List Char) = text at h
  cases h with
  | nil => rfl
  | visible hc hrest => cases htext
  | gap hne hne' hspace hspace' hrest =>
    rw [eq_comm, List.append_eq_nil_iff] at htext
    exact absurd htext.1 hne

/-- One more character of white space in front of a gap. -/
theorem widen (h : Respaced text other) (hc : isWhiteSpace c = true) (htext : ∃ d ∈ text.head?, isWhiteSpace d = true) :
    Respaced (c :: text) other := by
  obtain ⟨d, hd, hspace⟩ := htext
  cases h with
  | nil => cases hd
  | visible hvisible _ =>
    obtain rfl := Option.some.inj hd
    rw [hspace] at hvisible
    cases hvisible
  | gap hne hne' hgap hgap' hrest =>
    exact gap (cons_ne_nil _ _) hne' (forall_mem_cons.mpr ⟨hc, hgap⟩) hgap' hrest

/-- **What stands before and behind a visible character.** -/
theorem split (h : Respaced text other) (htext : text = before ++ c :: after) (hc : isWhiteSpace c = false) :
    ∃ before' after', other = before' ++ c :: after' ∧ Respaced before before' ∧ Respaced after after' := by
  induction h generalizing before with
  | nil => exact absurd htext (List.append_ne_nil_of_right_ne_nil _ (cons_ne_nil _ _)).symm
  | @visible d text other hd hrest ih =>
    cases before with
    | nil =>
      obtain ⟨rfl, rfl⟩ := List.cons.inj htext
      exact ⟨[], other, rfl, .nil, hrest⟩
    | cons e before =>
      obtain ⟨rfl, hbehind⟩ := List.cons.inj htext
      obtain ⟨before', after', rfl, hbefore, hafter⟩ := ih hbehind
      exact ⟨d :: before', after', rfl, .visible hd hbefore, hafter⟩
  | @gap space space' text other hne hne' hspace hspace' hrest ih =>
    -- The character is not in the gap.
    have hbehind : ∃ more, before = space ++ more ∧ text = more ++ c :: after := by
      rcases List.append_eq_append_iff.mp htext with hbehind | ⟨more, heq, hrest⟩
      · exact hbehind
      · cases more with
        | nil => exact ⟨[], by rw [heq, append_nil, append_nil], hrest.symm⟩
        | cons e more =>
          obtain ⟨rfl, -⟩ := List.cons.inj hrest
          have hspace := hspace c (heq ▸ List.mem_append_right _ mem_cons_self)
          rw [hc] at hspace
          cases hspace
    obtain ⟨more, rfl, hmore⟩ := hbehind
    obtain ⟨before', after', rfl, hbefore, hafter⟩ := ih hmore
    exact ⟨space' ++ before', after', (append_assoc _ _ _).symm, .gap hne hne' hspace hspace' hbefore, hafter⟩

/-- What stands behind a visible beginning. -/
theorem split_leading (h : Respaced (part ++ after) other) (hpart : ∀ c ∈ part, isWhiteSpace c = false) :
    ∃ after', other = part ++ after' ∧ Respaced after after' := by
  induction part generalizing other with
  | nil => exact ⟨other, rfl, h⟩
  | cons c part ih =>
    obtain ⟨hc, hpart⟩ := forall_mem_cons.mp hpart
    obtain ⟨before', rest, rfl, hbefore, hrest⟩ := h.split (nil_append _).symm hc
    obtain rfl : before' = [] := hbefore.nil_left
    obtain ⟨after', rfl, hafter⟩ := ih hrest hpart
    exact ⟨after', rfl, hafter⟩

/-- What stands before and behind a visible part. -/
theorem split_part (h : Respaced text other) (htext : text = before ++ part ++ after)
    (hpart : ∀ c ∈ part, isWhiteSpace c = false) (hne : part ≠ []) :
    ∃ before' after', other = before' ++ part ++ after' ∧ Respaced before before' ∧ Respaced after after' := by
  cases part with
  | nil => exact absurd rfl hne
  | cons c part =>
    obtain ⟨hc, hpart⟩ := forall_mem_cons.mp hpart
    rw [append_assoc, cons_append] at htext
    obtain ⟨before', rest, rfl, hbefore, hrest⟩ := h.split htext hc
    obtain ⟨after', rfl, hafter⟩ := hrest.split_leading hpart
    exact ⟨before', after', by rw [append_assoc, cons_append], hbefore, hafter⟩

/-- A visible character in front stays there. -/
theorem head?_eq (h : Respaced text other) (hfirst : ∀ c ∈ text.head?, isWhiteSpace c = false) :
    other.head? = text.head? := by
  cases text with
  | nil => rw [h.nil_left]
  | cons c text =>
    obtain ⟨rest, rfl, -⟩ := @split_leading [c] other text h (List.forall_mem_singleton.mpr (hfirst c rfl))
    rfl

/-- And so does one at the end. -/
theorem getLast?_eq (h : Respaced text other) (hlast : ∀ c ∈ text.getLast?, isWhiteSpace c = false) :
    other.getLast? = text.getLast? := by
  rcases List.eq_nil_or_concat text with rfl | ⟨rest, c, rfl⟩
  · rw [h.nil_left]
  · rw [concat_eq_append] at h hlast ⊢
    rw [List.getLast?_concat] at hlast ⊢
    obtain ⟨before', after', rfl, -, hafter⟩ := h.split rfl (hlast c rfl)
    rw [hafter.nil_left, List.getLast?_concat]

end Respaced

theorem intercalate_cons_word {word : List Char} {words : List (List Char)} :
    [' '].intercalate ((c :: word) :: words) = c :: [' '].intercalate (word :: words) := by
  cases words with
  | nil => rw [List.intercalate_singleton, List.intercalate_singleton]
  | cons next words => rw [intercalate_cons_cons, intercalate_cons_cons, cons_append, cons_append]

/-- The words one space apart are the text respaced, up to white space in front of them. -/
theorem respaced_collapse_cons (hlast : ∀ d ∈ (c :: text).getLast?, isWhiteSpace d = false) :
    Respaced (c :: text) (if isWhiteSpace c = true then ' ' :: collapse (c :: text) else collapse (c :: text)) := by
  unfold collapse
  induction text generalizing c with
  | nil =>
    have hc : isWhiteSpace c = false := hlast c rfl
    rw [if_neg (not_eq_true _ ▸ hc), splitWhitespace_cons_edge hc beginsWithSpace_nil]
    exact .visible hc .nil
  | cons d text ih =>
    rw [List.getLast?_cons_cons] at hlast
    have hrest := ih hlast
    by_cases hc : isWhiteSpace c = true
    · rw [if_pos hc, splitWhitespace_cons hc]
      by_cases hd : isWhiteSpace d = true
      · rw [if_pos hd] at hrest
        exact hrest.widen hc ⟨d, rfl, hd⟩
      · rw [if_neg hd] at hrest
        have hgap : Respaced ([c] ++ d :: text) ([' '] ++ [' '].intercalate (splitWhitespace (d :: text))) :=
          .gap (cons_ne_nil _ _) (cons_ne_nil _ _) (List.forall_mem_singleton.mpr hc)
            (List.forall_mem_singleton.mpr rfl) hrest
        exact hgap
    · rw [if_neg hc]
      rw [not_eq_true] at hc
      by_cases hd : isWhiteSpace d = true
      · rw [if_pos hd] at hrest
        obtain ⟨word, words, hwords⟩ := List.exists_cons_of_ne_nil
          (splitWhitespace_ne_nil (cons_ne_nil d text) hlast)
        rw [splitWhitespace_cons_edge hc (beginsWithSpace_cons hd), hwords, intercalate_cons_cons, ← hwords]
        exact .visible hc hrest
      · rw [if_neg hd] at hrest
        rw [not_eq_true] at hd
        obtain ⟨word, words, hwords, hmore⟩ := @splitWhitespace_cons_visible text c d hc hd
        rw [hmore, intercalate_cons_word, ← hwords]
        exact .visible hc hrest

/-- **The words of a line one space apart** are the line, respaced. -/
theorem respaced_collapse (htext : text ≠ []) (hfirst : ∀ c ∈ text.head?, isWhiteSpace c = false)
    (hlast : ∀ c ∈ text.getLast?, isWhiteSpace c = false) : Respaced text (collapse text) := by
  cases text with
  | nil => exact absurd rfl htext
  | cons c text =>
    have hrespaced := respaced_collapse_cons hlast
    rw [if_neg (not_eq_true _ ▸ hfirst c rfl)] at hrespaced
    exact hrespaced

/-- What stands in a respaced text: visible characters of the text, and plain spaces. -/
theorem mem_collapse (hc : c ∈ collapse text) : c = ' ' ∨ (c ∈ text ∧ isWhiteSpace c = false) := by
  unfold collapse at hc
  generalize hwords : splitWhitespace text = words at hc
  have hmem : ∀ word ∈ words, ∀ c ∈ word, c ∈ text ∧ isWhiteSpace c = false :=
    fun word hword c hc => mem_of_mem_splitWhitespace (hwords ▸ hword) hc
  clear hwords
  induction words with
  | nil => cases hc
  | cons word words ih =>
    obtain ⟨hword, hmore⟩ := forall_mem_cons.mp hmem
    cases words with
    | nil =>
      rw [List.intercalate_singleton] at hc
      exact .inr (hword c hc)
    | cons next words =>
      rw [intercalate_cons_cons, append_assoc] at hc
      rcases List.mem_append.mp hc with hc | hc
      · exact .inr (hword c hc)
      · rcases List.mem_append.mp hc with hc | hc
        · exact .inl (mem_singleton.mp hc)
        · exact ih hc hmore

/-! ## Single spaces -/

/-- Each run of white space as a single space. -/
def squeeze : List Char → List Char
  | [] => []
  | c :: text =>
    if isWhiteSpace c = false then c :: squeeze text
    else if text.head?.any isWhiteSpace then squeeze text
    else ' ' :: squeeze text

theorem squeeze_cons_visible (hc : isWhiteSpace c = false) : squeeze (c :: text) = c :: squeeze text := if_pos hc

theorem squeeze_cons_space (hc : isWhiteSpace c = true) :
    squeeze (c :: text) = if text.head?.any isWhiteSpace then squeeze text else ' ' :: squeeze text := by
  rw [squeeze, if_neg (Bool.not_eq_false _ ▸ hc)]

theorem squeeze_visible_append (hpart : ∀ c ∈ part, isWhiteSpace c = false) :
    squeeze (part ++ text) = part ++ squeeze text := by
  induction part with
  | nil => rfl
  | cons c part ih =>
    obtain ⟨hc, hpart⟩ := forall_mem_cons.mp hpart
    rw [cons_append, squeeze_cons_visible hc, ih hpart, cons_append]

/-- White space in front stays white space in front. -/
theorem squeeze_head?_any : (squeeze text).head?.any isWhiteSpace = text.head?.any isWhiteSpace := by
  induction text with
  | nil => rfl
  | cons c text ih =>
    by_cases hc : isWhiteSpace c = true
    · rw [squeeze_cons_space hc]
      split
      · next hmore =>
        rw [ih, hmore]
        exact hc.symm
      · exact hc.symm
    · rw [squeeze_cons_visible (not_eq_true _ ▸ hc)]
      rfl

theorem squeeze_append_left (before text : List Char) : ∃ rest, squeeze (before ++ text) = rest ++ squeeze text := by
  induction before with
  | nil => exact ⟨[], rfl⟩
  | cons c before ih =>
    obtain ⟨rest, hrest⟩ := ih
    rw [cons_append, squeeze, hrest]
    split
    · exact ⟨c :: rest, rfl⟩
    · split
      · exact ⟨rest, rfl⟩
      · exact ⟨' ' :: rest, rfl⟩

/-- What begins with white space begins with a space when it is squeezed. -/
theorem squeeze_of_space (h : text.head?.any isWhiteSpace = true) : ∃ more, squeeze text = ' ' :: more := by
  induction text with
  | nil => cases h
  | cons c text ih =>
    have hc : isWhiteSpace c = true := h
    rw [squeeze_cons_space hc]
    split
    · next hmore => exact ih hmore
    · exact ⟨squeeze text, rfl⟩

theorem squeeze_append_right (text after : List Char) : ∃ rest, squeeze (text ++ after) = squeeze text ++ rest := by
  induction text with
  | nil => exact ⟨squeeze after, rfl⟩
  | cons c text ih =>
    obtain ⟨rest, hrest⟩ := ih
    by_cases hc : isWhiteSpace c = true
    · cases text with
      | nil =>
        have hsingle : squeeze [c] = [' '] := by
          rw [squeeze_cons_space hc]
          rfl
        rw [hsingle, List.singleton_append, squeeze_cons_space hc]
        split
        · next hmore => exact squeeze_of_space hmore
        · exact ⟨squeeze after, rfl⟩
      | cons d text =>
        rw [cons_append, squeeze_cons_space hc, squeeze_cons_space hc, hrest]
        show ∃ rest', (if isWhiteSpace d = true then _ else _) = (if isWhiteSpace d = true then _ else _) ++ rest'
        split
        · exact ⟨rest, rfl⟩
        · exact ⟨rest, rfl⟩
    · rw [not_eq_true] at hc
      rw [cons_append, squeeze_cons_visible hc, squeeze_cons_visible hc, hrest]
      exact ⟨rest, rfl⟩

theorem squeeze_isInfix (h : part <:+: text) : squeeze part <:+: squeeze text := by
  obtain ⟨before, after, rfl⟩ := h
  obtain ⟨rest, hrest⟩ := squeeze_append_right (before ++ part) after
  obtain ⟨first, hfirst⟩ := squeeze_append_left before part
  exact ⟨first, rest, by rw [hrest, hfirst]⟩

/-- **A squeezed text is cut where the text can be cut.** -/
theorem squeeze_split (h : squeeze text = before ++ after) :
    ∃ before' after', text = before' ++ after' ∧ squeeze before' = before ∧ squeeze after' = after := by
  induction text generalizing before with
  | nil =>
    obtain ⟨rfl, rfl⟩ := List.append_eq_nil_iff.mp h.symm
    exact ⟨[], [], rfl, rfl, rfl⟩
  | cons c text ih =>
    cases before with
    | nil => exact ⟨[], c :: text, rfl, rfl, h⟩
    | cons d before =>
      by_cases hc : isWhiteSpace c = true
      · rw [squeeze_cons_space hc] at h
        split at h
        · next hmore =>
          obtain ⟨before', after', rfl, hbefore, hafter⟩ := ih h
          refine ⟨c :: before', after', rfl, ?_, hafter⟩
          cases before' with
          | nil => cases hbefore
          | cons e before' =>
            have he : (e :: before').head?.any isWhiteSpace = true := hmore
            rw [squeeze_cons_space hc, if_pos he]
            exact hbefore
        · next hmore =>
          obtain ⟨rfl, hrest⟩ := List.cons.inj h
          obtain ⟨before', after', rfl, rfl, hafter⟩ := ih hrest
          refine ⟨c :: before', after', rfl, ?_, hafter⟩
          rw [squeeze_cons_space hc, if_neg]
          cases before' with
          | nil => exact Bool.false_ne_true
          | cons e before' => exact hmore
      · rw [not_eq_true] at hc
        rw [squeeze_cons_visible hc] at h
        obtain ⟨rfl, hrest⟩ := List.cons.inj h
        obtain ⟨before', after', rfl, rfl, hafter⟩ := ih hrest
        exact ⟨c :: before', after', rfl, squeeze_cons_visible hc, hafter⟩

/-- **A phrase of a squeezed text** is what a part of the text comes to. -/
theorem isInfix_squeeze_iff : part <:+: squeeze text ↔ ∃ piece, piece <:+: text ∧ squeeze piece = part := by
  constructor
  · rintro ⟨before, after, h⟩
    obtain ⟨front, after', rfl, hfront, -⟩ := squeeze_split h.symm
    obtain ⟨before', piece, rfl, -, hpiece⟩ := squeeze_split hfront
    exact ⟨piece, ⟨before', after', rfl⟩, hpiece⟩
  · rintro ⟨piece, hpiece, rfl⟩
    exact squeeze_isInfix hpiece

theorem squeeze_gap (hne : part ≠ []) (hpart : ∀ c ∈ part, isWhiteSpace c = true) :
    squeeze (part ++ text) = if text.head?.any isWhiteSpace then squeeze text else ' ' :: squeeze text := by
  induction part with
  | nil => exact absurd rfl hne
  | cons c part ih =>
    obtain ⟨hc, hpart⟩ := forall_mem_cons.mp hpart
    rw [cons_append, squeeze_cons_space hc]
    cases part with
    | nil => rfl
    | cons d part =>
      have hd : (d :: part ++ text).head?.any isWhiteSpace = true := hpart d mem_cons_self
      rw [if_pos hd]
      exact ih (cons_ne_nil _ _) hpart

theorem Respaced.squeeze_eq (h : Respaced text other) : squeeze text = squeeze other := by
  induction h with
  | nil => rfl
  | visible hc _ ih => rw [squeeze_cons_visible hc, squeeze_cons_visible hc, ih]
  | @gap gap gap' text other hne hne' hgap hgap' _ ih =>
    rw [squeeze_gap hne hgap, squeeze_gap hne' hgap', ← squeeze_head?_any, ih, squeeze_head?_any]

/-- A squeezed text is the text, respaced. -/
theorem respaced_squeeze (text : List Char) : Respaced text (squeeze text) := by
  induction text with
  | nil => exact .nil
  | cons c text ih =>
    by_cases hc : isWhiteSpace c = true
    · rw [squeeze_cons_space hc]
      split
      · next hmore =>
        obtain ⟨d, hd, hspace⟩ := (Option.any_eq_true _ _).mp hmore
        exact ih.widen hc ⟨d, hd, hspace⟩
      · exact @Respaced.gap [c] [' '] text (squeeze text) (cons_ne_nil _ _) (cons_ne_nil _ _)
          (List.forall_mem_singleton.mpr hc) (List.forall_mem_singleton.mpr rfl) ih
    · rw [not_eq_true] at hc
      rw [squeeze_cons_visible hc]
      exact .visible hc ih

theorem squeeze_collapse (text : List Char) : squeeze (collapse text) = collapse text := by
  have hwords : ∀ word ∈ splitWhitespace text, word ≠ [] ∧ ∀ c ∈ word, isWhiteSpace c = false := by
    intro word hword
    exact ⟨of_decide_eq_true (List.mem_filter.mp hword).2, fun c hc => (mem_of_mem_splitWhitespace hword hc).2⟩
  unfold collapse
  generalize splitWhitespace text = words at hwords ⊢
  induction words with
  | nil => rfl
  | cons word words ih =>
    obtain ⟨⟨hne, hword⟩, hwords⟩ := forall_mem_cons.mp hwords
    cases words with
    | nil =>
      have hsame := @squeeze_visible_append [] word hword
      rw [append_nil] at hsame
      rw [List.intercalate_singleton, hsame]
      exact append_nil word
    | cons next words =>
      obtain ⟨hnext, hvisible⟩ := hwords next mem_cons_self
      obtain ⟨c, next, rfl⟩ := List.exists_cons_of_ne_nil hnext
      have hc : isWhiteSpace c = false := hvisible c mem_cons_self
      have ih := ih hwords
      rw [intercalate_cons_word] at ih
      rw [intercalate_cons_cons, append_assoc, squeeze_visible_append hword, List.singleton_append,
        intercalate_cons_word, squeeze_cons_space rfl, ih, if_neg]
      exact not_eq_true _ ▸ hc

end ManchesterArcana
