import ManchesterArcana.Events.Runtime

/-!
# `Events.Stability` — what is kept, scanned again

The scan reads a source as it stands, and the words of a fact line are put one space apart behind it. What stands between
white space in a text has no finding that the text has not, in lower case too (`stands_lowercase`, `detected_of_stands`).
White space is no matter for what is found without a space, and of a phrase with a space it is read as one
(`isInfix_squeeze_iff`). So the facts that are kept have no finding if and only if no fact line spells across its white
space what is sought with a space in it (`facts_clean_iff`).
-/

namespace ManchesterArcana.Events

open Effect
open List (append_assoc append_nil cons_append mem_cons mem_cons_self)
open List (any_eq_true mem_cons_of_mem reverse_cons)
open Bool (and_eq_true not_eq_true or_eq_true)

/-! ## Lower case between white space -/

section Lowercase

variable {t : CharTables} {text part other before before' after : List Char} {c : Char}

/-- White space ends the word that a sigma stands in. -/
theorem caseIgnorableThenCased_space (hc : isWhiteSpace c = true) :
    t.caseIgnorableThenCased (before ++ c :: after) = t.caseIgnorableThenCased before := by
  obtain ⟨huncased, hignorable⟩ := t.space_uncased c hc
  unfold CaseTables.caseIgnorableThenCased
  induction before with
  | nil =>
    rw [List.nil_append, List.dropWhile_cons_of_neg (not_eq_true _ ▸ hignorable)]
    exact huncased
  | cons d before ih =>
    rw [cons_append, List.dropWhile_cons, List.dropWhile_cons]
    by_cases hd : t.caseIgnorable d = true
    · rw [if_pos hd, if_pos hd]
      exact ih
    · rw [if_neg hd, if_neg hd]

/-- Texts that a sigma cannot tell apart, when they stand behind what it stands behind. -/
def SameContext (t : CharTables) (text other : List Char) : Prop :=
  ∀ front, t.caseIgnorableThenCased (front ++ text) = t.caseIgnorableThenCased (front ++ other)

theorem SameContext.cons (h : SameContext t text other) : SameContext t (c :: text) (c :: other) := by
  intro front
  have hsnoc := h (front ++ [c])
  rw [append_assoc, append_assoc] at hsnoc
  exact hsnoc

theorem sameContext_space {d : Char} (hc : isWhiteSpace c = true) (hd : isWhiteSpace d = true) :
    SameContext t (c :: text) (d :: other) := by
  intro front
  rw [caseIgnorableThenCased_space hc, caseIgnorableThenCased_space hd]

theorem sameContext_of_beginsWithSpace (h : BeginsWithSpace text) : SameContext t text [] := by
  intro front
  cases text with
  | nil => rfl
  | cons c text => rw [caseIgnorableThenCased_space (h c rfl), append_nil]

theorem lowerIn_congr {rest rest' : List Char} (hbefore : SameContext t before before') (hrest : SameContext t rest rest') :
    t.lowerIn before c rest = t.lowerIn before' c rest' := by
  have hbefore := hbefore []
  have hrest := hrest []
  rw [List.nil_append, List.nil_append] at hbefore hrest
  unfold CaseTables.lowerIn CaseTables.sigmaIn
  rw [hbefore, hrest]

theorem lowerIn_space {rest : List Char} (hc : isWhiteSpace c = true) : t.lowerIn before c rest = [c] := by
  unfold CaseTables.lowerIn
  rw [if_neg, t.lower_space c hc]
  rintro rfl
  cases hc

theorem lowerIn_visible (before rest : List Char) (hc : isWhiteSpace c = false) :
    ∀ d ∈ t.lowerIn before c rest, isWhiteSpace d = false := by
  intro d hd
  unfold CaseTables.lowerIn at hd
  split at hd
  · rw [List.mem_singleton.mp hd]
    unfold CaseTables.sigmaIn
    split <;> rfl
  · exact t.lower_visible c hc d hd

theorem lowerFrom_space (hc : isWhiteSpace c = true) :
    t.lowerFrom before (c :: text) = c :: t.lowerFrom (c :: before) text := by
  rw [CaseTables.lowerFrom, lowerIn_space hc]
  rfl

theorem lowerFrom_congr (h : SameContext t before before') : t.lowerFrom before text = t.lowerFrom before' text := by
  induction text generalizing before before' with
  | nil => rfl
  | cons c text ih => rw [CaseTables.lowerFrom, CaseTables.lowerFrom, lowerIn_congr h fun _ => rfl, ih h.cons]

/-- What follows a text does not matter to it when it begins with white space. -/
theorem lowerFrom_append (hafter : BeginsWithSpace after) :
    t.lowerFrom before (text ++ after) = t.lowerFrom before text ++ t.lowerFrom (text.reverse ++ before) after := by
  induction text generalizing before with
  | nil => rfl
  | cons c text ih =>
    have hrest : SameContext t (text ++ after) text := by
      intro front
      have hsame := sameContext_of_beginsWithSpace (t := t) hafter (front ++ text)
      rw [append_nil, append_assoc] at hsame
      exact hsame
    rw [cons_append, CaseTables.lowerFrom, CaseTables.lowerFrom, lowerIn_congr (fun _ => rfl) hrest, ih,
      reverse_cons, append_assoc, append_assoc]
    rfl

theorem beginsWithSpace_lowerFrom (h : BeginsWithSpace text) : BeginsWithSpace (t.lowerFrom before text) := by
  cases text with
  | nil => exact beginsWithSpace_nil
  | cons c text =>
    have hc := h c rfl
    rw [lowerFrom_space hc]
    exact beginsWithSpace_cons hc

/-- **What stands between white space** stands there in lower case. -/
theorem stands_lowercase (h : Stands part text) : Stands (lowercase t part) (lowercase t text) := by
  obtain ⟨front, after, rfl, hfront, hafter⟩ := h
  have hlater : ∀ context, SameContext t context [] → Stands (t.lowerFrom [] part) (t.lowerFrom context (part ++ after)) := by
    intro context hcontext
    refine ⟨[], t.lowerFrom (part.reverse ++ context) after, ?_, endsInSpace_nil, beginsWithSpace_lowerFrom hafter⟩
    rw [lowerFrom_append hafter, lowerFrom_congr hcontext]
    rfl
  unfold Events.lowercase
  rw [append_assoc]
  rcases List.eq_nil_or_concat front with rfl | ⟨front, c, rfl⟩
  · exact hlater [] fun _ => rfl
  · rw [List.concat_eq_append] at hfront ⊢
    have hc : isWhiteSpace c = true := hfront c (by rw [List.getLast?_concat]; rfl)
    rw [append_assoc, List.singleton_append, lowerFrom_append (beginsWithSpace_cons hc), lowerFrom_space hc]
    refine (hlater _ ?_).behind hc
    exact sameContext_of_beginsWithSpace (beginsWithSpace_cons hc)

theorem respaced_visible_append (hpart : ∀ c ∈ part, isWhiteSpace c = false) (h : Respaced text other) :
    Respaced (part ++ text) (part ++ other) := by
  induction part with
  | nil => exact h
  | cons c part ih =>
    obtain ⟨hc, hpart⟩ := List.forall_mem_cons.mp hpart
    exact .visible hc (ih hpart)

theorem sameContext_of_respaced (h : Respaced text other) : SameContext t text other := by
  induction h with
  | nil => exact fun _ => rfl
  | visible _ _ ih => exact ih.cons
  | gap hne hne' hgap hgap' _ _ =>
    obtain ⟨c, gap, rfl⟩ := List.exists_cons_of_ne_nil hne
    obtain ⟨d, gap', rfl⟩ := List.exists_cons_of_ne_nil hne'
    exact sameContext_space (hgap c mem_cons_self) (hgap' d mem_cons_self)

theorem lowerFrom_gap (hpart : ∀ c ∈ part, isWhiteSpace c = true) :
    t.lowerFrom before (part ++ text) = part ++ t.lowerFrom (part.reverse ++ before) text := by
  induction part generalizing before with
  | nil => rfl
  | cons c part ih =>
    obtain ⟨hc, hpart⟩ := List.forall_mem_cons.mp hpart
    rw [cons_append, lowerFrom_space hc, ih hpart, reverse_cons, append_assoc]
    rfl

theorem reverse_append_space (before : List Char) (hne : part ≠ []) (hpart : ∀ c ∈ part, isWhiteSpace c = true) :
    ∃ c rest, part.reverse ++ before = c :: rest ∧ isWhiteSpace c = true := by
  obtain ⟨rest, c, rfl⟩ := (List.eq_nil_or_concat part).resolve_left hne
  rw [List.concat_eq_append] at hpart ⊢
  exact ⟨c, rest.reverse ++ before, by rw [List.reverse_append]; rfl,
    hpart c (List.mem_append_right _ mem_cons_self)⟩

/-- **A text that is spaced differently** is so in lower case. -/
theorem respaced_lowerFrom (h : Respaced text other) (hbefore : SameContext t before before') :
    Respaced (t.lowerFrom before text) (t.lowerFrom before' other) := by
  induction h generalizing before before' with
  | nil => exact .nil
  | visible hc hrest ih =>
    rw [CaseTables.lowerFrom, CaseTables.lowerFrom, lowerIn_congr hbefore (sameContext_of_respaced hrest)]
    exact respaced_visible_append (lowerIn_visible _ _ hc) (ih hbefore.cons)
  | gap hne hne' hgap hgap' _ ih =>
    rw [lowerFrom_gap hgap, lowerFrom_gap hgap']
    refine .gap hne hne' hgap hgap' (ih ?_)
    obtain ⟨c, rest, hc, hspace⟩ := reverse_append_space before hne hgap
    obtain ⟨d, rest', hd, hspace'⟩ := reverse_append_space before' hne' hgap'
    rw [hc, hd]
    exact sameContext_space hspace hspace'

theorem respaced_lowercase (h : Respaced text other) : Respaced (lowercase t text) (lowercase t other) :=
  respaced_lowerFrom h fun _ => rfl

theorem not_beginsWithSpace_lowerFrom (h : text.head?.any isWhiteSpace = false) :
    (t.lowerFrom before text).head?.any isWhiteSpace = false := by
  cases text with
  | nil => rfl
  | cons c text =>
    rw [CaseTables.lowerFrom]
    cases hlower : t.lowerIn before c text with
    | nil => exact absurd hlower (CaseTables.lowerIn_ne_nil before c text)
    | cons d lowered =>
      have hvisible := lowerIn_visible (t := t) before text (show isWhiteSpace c = false from h)
      rw [hlower] at hvisible
      exact hvisible d mem_cons_self

theorem length_squeeze_le (text : List Char) : (squeeze text).length ≤ text.length := by
  induction text with
  | nil => exact Nat.le_refl 0
  | cons c text ih =>
    rw [squeeze]
    split
    · exact Nat.succ_le_succ ih
    · split
      · exact Nat.le_succ_of_le ih
      · exact Nat.succ_le_succ ih

/-- Lower case leaves single spaces single. -/
theorem squeeze_lowerFrom (h : squeeze text = text) : squeeze (t.lowerFrom before text) = t.lowerFrom before text := by
  induction text generalizing before with
  | nil => rfl
  | cons c text ih =>
    by_cases hc : isWhiteSpace c = true
    · rw [squeeze_cons_space hc] at h
      split at h
      · -- A run would have become shorter.
        have hlength := length_squeeze_le text
        rw [h] at hlength
        exact absurd hlength (Nat.not_succ_le_self _)
      · next hmore =>
        obtain ⟨rfl, hrest⟩ := List.cons.inj h
        rw [lowerFrom_space hc, squeeze_cons_space hc, not_beginsWithSpace_lowerFrom (not_eq_true _ ▸ hmore), ih hrest]
        rfl
    · rw [not_eq_true] at hc
      rw [squeeze_cons_visible hc] at h
      rw [CaseTables.lowerFrom, squeeze_visible_append (lowerIn_visible _ _ hc), ih (List.cons.inj h).2]

end Lowercase

/-! ## What is found -/

section Found

variable {t : CharTables} {text part other before after piece : List Char} {c : Char}

/-- What is searched for as it stands. -/
def markers : List String := activeMarkers ++ injectionMarkers ++ contactMarkers

/-- A text in lower case that one of the four findings is made in. -/
def Detected (t : CharTables) (text : List Char) : Prop :=
  (∃ marker ∈ markers, marker.toList <:+: text) ∨ containsHtmlTag t text = true ∨ containsEmailOrHandle text = true ∨
    containsLikelyPhone text = true ∨ containsLikelyStreetAddress text = true ∨
    ∃ term ∈ sensitiveTerms, containsBoundedTerm t text term = true

theorem scanSource_eq_empty : scanSource t text = ∅ ↔ ¬ Detected t (lowercase t text) := by
  have hnone : ∀ {b : Bool} {code : EventSourceFindingCode},
      (if b = true then ({code} : Finset EventSourceFindingCode) else ∅) = ∅ ↔ b = false := by
    intro b code
    cases b <;> simp
  have hmarkers : (∃ marker ∈ markers, marker.toList <:+: lowercase t text) ↔
      activeMarkers.any (containsPart (lowercase t text)) = true ∨ injectionMarkers.any (containsPart (lowercase t text)) = true ∨
        contactMarkers.any (containsPart (lowercase t text)) = true := by
    rw [← or_eq_true, ← or_eq_true, ← List.any_append, ← List.any_append, ← append_assoc, any_eq_true]
    simp only [containsPart, decide_eq_true_eq]
    rfl
  unfold scanSource Detected
  dsimp only
  rw [hmarkers, Finset.union_eq_empty, Finset.union_eq_empty, Finset.union_eq_empty, hnone, hnone, hnone, hnone,
    ← any_eq_true]
  unfold containsActiveContentOrLink containsPromptOrToolInjection containsLikelyContactOrIdentifier
    containsProhibitedSensitiveCategory
  simp only [← or_eq_true, ← not_eq_true]
  simp only [or_eq_true, not_or]
  tauto

theorem any_placesFrom {p : List Char × Char × List Char → Bool} :
    (placesFrom before text).any p = true ↔
      ∃ front c after, text = front ++ c :: after ∧ p (front.reverse ++ before, c, after) = true := by
  induction text generalizing before with
  | nil =>
    constructor
    · intro h
      cases h
    · rintro ⟨front, c, after, h, -⟩
      exact absurd h.symm (List.append_ne_nil_of_right_ne_nil _ (List.cons_ne_nil _ _))
  | cons d text ih =>
    rw [placesFrom, List.any_cons, or_eq_true, ih]
    constructor
    · rintro (h | ⟨front, c, after, rfl, h⟩)
      · exact ⟨[], d, text, rfl, h⟩
      · refine ⟨d :: front, c, after, rfl, ?_⟩
        rw [reverse_cons, append_assoc]
        exact h
    · rintro ⟨front, c, after, heq, h⟩
      cases front with
      | nil =>
        obtain ⟨rfl, rfl⟩ := List.cons.inj heq
        exact .inl h
      | cons e front =>
        obtain ⟨rfl, hrest⟩ := List.cons.inj heq
        rw [reverse_cons, append_assoc] at h
        exact .inr ⟨front, c, after, hrest, h⟩

theorem any_places {p : List Char × Char × List Char → Bool} :
    (places text).any p = true ↔ ∃ front c after, text = front ++ c :: after ∧ p (front.reverse, c, after) = true := by
  have hplaces := @any_placesFrom text [] p
  simp only [append_nil] at hplaces
  exact hplaces

theorem containsHtmlTag_iff : containsHtmlTag t text = true ↔
    ∃ before after, text = before ++ '<' :: after ∧ (stripSlash after).head?.any t.isAlphabetic = true ∧
      '>' ∈ stripSlash after := by
  unfold containsHtmlTag
  rw [any_places]
  simp only [and_eq_true, beq_iff_eq, List.contains_iff_mem]
  constructor
  · rintro ⟨before, c, after, rfl, ⟨rfl, hletter⟩, hclosed⟩
    exact ⟨before, after, rfl, hletter, hclosed⟩
  · rintro ⟨before, after, rfl, hletter, hclosed⟩
    exact ⟨before, '<', after, rfl, ⟨rfl, hletter⟩, hclosed⟩

/-- **An address or a handle**: what stands in front of the `@` is no matter, since a letter or digit counts as a name. -/
theorem containsEmailOrHandle_iff : containsEmailOrHandle text = true ↔
    ∃ before c d after, text = before ++ '@' :: c :: d :: after ∧ isHostChar c = true ∧ isHostChar d = true := by
  unfold containsEmailOrHandle
  rw [any_places]
  constructor
  · rintro ⟨before, c, after, rfl, h⟩
    simp only [and_eq_true, beq_iff_eq, decide_eq_true_eq] at h
    obtain ⟨⟨rfl, -⟩, hhost⟩ := h
    obtain ⟨c, d, rest, htaken⟩ : ∃ c d rest, after.takeWhile isHostChar = c :: d :: rest := by
      cases htaken : after.takeWhile isHostChar with
      | nil =>
        rw [htaken] at hhost
        exact absurd hhost (by simp)
      | cons c rest =>
        cases rest with
        | nil =>
          rw [htaken] at hhost
          exact absurd hhost (by simp)
        | cons d rest => exact ⟨c, d, rest, rfl⟩
    have hchars : ∀ e ∈ after.takeWhile isHostChar, isHostChar e = true := fun e he => List.mem_takeWhile_imp he
    rw [htaken] at hchars
    refine ⟨before, c, d, rest ++ after.dropWhile isHostChar, ?_, hchars c mem_cons_self,
      hchars d (mem_cons_of_mem _ mem_cons_self)⟩
    rw [← cons_append, ← cons_append, ← htaken, List.takeWhile_append_dropWhile]
  · rintro ⟨before, c, d, after, rfl, hc, hd⟩
    refine ⟨before, '@', c :: d :: after, rfl, ?_⟩
    have hfront : (decide (0 < (before.reverse.takeWhile isLocalChar).length) ||
        before.reverse.head?.all fun d => !d.isAlphanum) = true := by
      cases before.reverse with
      | nil => rfl
      | cons e rest =>
        by_cases he : e.isAlphanum = true
        · have hlocal : isLocalChar e = true := by simp [isLocalChar, he]
          rw [List.takeWhile_cons_of_pos hlocal]
          rfl
        · simp [he]
    dsimp only
    rw [hfront, List.takeWhile_cons_of_pos hc, List.takeWhile_cons_of_pos hd]
    simp

theorem stripPart_eq_some {rest : List Char} : stripPart part text = some rest ↔ text = part ++ rest := by
  induction part generalizing text with
  | nil => exact Option.some_inj
  | cons c part ih =>
    cases text with
    | nil => exact ⟨fun h => (nomatch h), fun h => (nomatch h)⟩
    | cons d text =>
      rw [stripPart]
      by_cases hc : c = d
      · rw [if_pos hc, ih, hc, cons_append, List.cons_inj_right]
      · rw [if_neg hc]
        exact ⟨fun h => (nomatch h), fun h => absurd (List.cons.inj h).1.symm hc⟩

/-- No letter or number ends the text. -/
def EndsApart (t : CharTables) (text : List Char) : Prop := ∀ c ∈ text.getLast?, t.isAlphanumeric c = false

/-- No letter or number begins it. -/
def BeginsApart (t : CharTables) (text : List Char) : Prop := ∀ c ∈ text.head?, t.isAlphanumeric c = false

theorem containsBoundedTerm_iff {term : String} (hterm : term.toList ≠ []) : containsBoundedTerm t text term = true ↔
    ∃ before after, text = before ++ term.toList ++ after ∧ EndsApart t before ∧ BeginsApart t after := by
  have hedge : ∀ edge : Option Char, edge.all (fun d => !t.isAlphanumeric d) = true ↔
      ∀ c ∈ edge, t.isAlphanumeric c = false := by
    intro edge
    cases edge <;> simp
  unfold containsBoundedTerm
  rw [any_places]
  simp only [Option.any_eq_true, and_eq_true, hedge, List.head?_reverse, stripPart_eq_some]
  constructor
  · rintro ⟨before, c, after, rfl, rest, hrest, hbefore, hafter⟩
    exact ⟨before, rest, by rw [hrest, append_assoc], hbefore, hafter⟩
  · rintro ⟨before, rest, rfl, hbefore, hafter⟩
    obtain ⟨c, tail, hcons⟩ := List.exists_cons_of_ne_nil hterm
    exact ⟨before, c, tail ++ rest, by rw [hcons, append_assoc, cons_append], rest,
      by rw [hcons, cons_append], hbefore, hafter⟩

/-! ## Phone numbers -/

/-- Digits with separators between or behind them. -/
structure IsPhoneRun (piece : List Char) : Prop where
  chars : ∀ c ∈ piece, c.isDigit = true ∨ isPhoneSeparator c = true
  digitFirst : ∀ c ∈ piece.head?, c.isDigit = true

/-- A run that is long enough, and broken. -/
structure IsPhone (piece : List Char) : Prop extends IsPhoneRun piece where
  long : 7 ≤ piece.countP Char.isDigit
  broken : 0 < piece.countP fun c => !c.isDigit

variable {digits separators : Nat}

theorem phoneFrom_of_counted (hdigits : 7 ≤ digits) (hseparators : 0 < separators) :
    phoneFrom digits separators text = true := by
  induction text generalizing digits separators with
  | nil => simp [phoneFrom, hdigits, hseparators]
  | cons c text ih =>
    rw [phoneFrom]
    split
    · exact ih (Nat.le_succ_of_le hdigits) hseparators
    · split
      · exact ih hdigits (Nat.succ_pos _)
      · simp [hdigits, hseparators]

theorem phoneFrom_of_run (hchars : ∀ c ∈ piece, c.isDigit = true ∨ isPhoneSeparator c = true)
    (hfirst : 0 < digits ∨ ∀ c ∈ piece.head?, c.isDigit = true) (hlong : 7 ≤ digits + piece.countP Char.isDigit)
    (hbroken : 0 < separators + piece.countP fun c => !c.isDigit) :
    phoneFrom digits separators (piece ++ after) = true := by
  induction piece generalizing digits separators with
  | nil => exact phoneFrom_of_counted hlong hbroken
  | cons c piece ih =>
    obtain ⟨hc, hchars⟩ := List.forall_mem_cons.mp hchars
    rw [cons_append, phoneFrom]
    by_cases hdigit : c.isDigit = true
    · rw [if_pos hdigit]
      simp only [List.countP_cons, hdigit, if_true, Bool.not_true, Bool.false_eq_true, if_false] at hlong hbroken
      exact ih hchars (.inl (Nat.succ_pos _)) (by omega) (by omega)
    · have hdigits : 0 < digits := hfirst.resolve_right fun h => hdigit (h c rfl)
      have hseparator : isPhoneSeparator c = true := hc.resolve_left hdigit
      rw [if_neg hdigit, if_pos (by simp [hdigits, hseparator])]
      rw [List.countP_cons_of_neg hdigit] at hlong
      exact ih hchars (.inl hdigits) hlong (by omega)

/-- Whatever was counted, the text goes on to what stands behind. -/
theorem phoneFrom_append (h : ∀ digits separators, phoneFrom digits separators text = true) :
    phoneFrom digits separators (before ++ text) = true := by
  induction before generalizing digits separators with
  | nil => exact h digits separators
  | cons c before ih =>
    rw [cons_append, phoneFrom]
    split
    · exact ih
    · split
      · exact ih
      · rw [ih, Bool.or_true]

theorem isPhoneRun_nil : IsPhoneRun [] := ⟨fun _ hd => (nomatch hd), fun _ hd => (nomatch hd)⟩

theorem isPhone_of_phoneFrom (hrun : IsPhoneRun part)
    (h : phoneFrom (part.countP Char.isDigit) (part.countP fun c => !c.isDigit) text = true) :
    ∃ piece, piece <:+: part ++ text ∧ IsPhone piece := by
  induction text generalizing part with
  | nil =>
    simp only [phoneFrom, and_eq_true, decide_eq_true_eq] at h
    exact ⟨part, List.infix_append' [] part [], hrun, h.1, h.2⟩
  | cons c text ih =>
    have hlater : ∀ (hchar : c.isDigit = true ∨ isPhoneSeparator c = true) (hfirst : part = [] → c.isDigit = true)
        (hcounted : phoneFrom ((part ++ [c]).countP Char.isDigit) ((part ++ [c]).countP fun c => !c.isDigit) text = true),
        ∃ piece, piece <:+: part ++ c :: text ∧ IsPhone piece := by
      intro hchar hfirst hcounted
      have hrun : IsPhoneRun (part ++ [c]) := by
        refine ⟨fun d hd => ?_, fun d hd => ?_⟩
        · rcases List.mem_append.mp hd with hd | hd
          · exact hrun.chars d hd
          · rw [List.mem_singleton.mp hd]
            exact hchar
        · cases part with
          | nil =>
            obtain rfl := Option.some.inj hd
            exact hfirst rfl
          | cons e part => exact hrun.digitFirst d hd
      have hmore := ih hrun hcounted
      rw [append_assoc] at hmore
      exact hmore
    rw [phoneFrom] at h
    split at h
    · next hdigit =>
      refine hlater (.inl hdigit) (fun _ => hdigit) ?_
      simp only [List.countP_append, List.countP_singleton, hdigit, if_true, Bool.not_true, Bool.false_eq_true, if_false]
      exact h
    · next hdigit =>
      split at h
      · next hseparator =>
        rw [and_eq_true, decide_eq_true_eq] at hseparator
        refine hlater (.inr hseparator.2) (fun hempty => ?_) ?_
        · rw [hempty] at hseparator
          exact absurd hseparator.1 (Nat.lt_irrefl 0)
        · simp only [List.countP_append, List.countP_singleton, hdigit, Bool.not_false, if_true]
          exact h
      · rw [or_eq_true, and_eq_true, decide_eq_true_eq, decide_eq_true_eq] at h
        rcases h with ⟨hlong, hbroken⟩ | h
        · exact ⟨part, (List.prefix_append part _).isInfix, hrun, hlong, hbroken⟩
        · obtain ⟨piece, hpiece, hphone⟩ := ih isPhoneRun_nil h
          refine ⟨piece, hpiece.trans ?_, hphone⟩
          exact (List.suffix_append_of_suffix (List.suffix_cons c text)).isInfix

theorem containsLikelyPhone_iff : containsLikelyPhone text = true ↔ ∃ piece, piece <:+: text ∧ IsPhone piece := by
  constructor
  · intro h
    exact isPhone_of_phoneFrom isPhoneRun_nil h
  · rintro ⟨piece, ⟨before, after, rfl⟩, hphone⟩
    unfold containsLikelyPhone
    rw [append_assoc]
    refine phoneFrom_append fun digits separators => ?_
    refine phoneFrom_of_run hphone.chars (.inr hphone.digitFirst) ?_ ?_
    · exact hphone.long.trans (Nat.le_add_left _ _)
    · exact Nat.lt_of_lt_of_le hphone.broken (Nat.le_add_left _ _)

theorem containsLikelyStreetAddress_iff : containsLikelyStreetAddress text = true ↔
    (∃ token ∈ splitWhitespace text, isNumberToken token = true) ∧ ∃ suffix ∈ streetSuffixes, suffix.toList <:+: text := by
  unfold containsLikelyStreetAddress
  rw [and_eq_true, any_eq_true, any_eq_true]
  simp only [containsPart, decide_eq_true_eq]

/-! ## Findings of a part -/

theorem endsApart_append (hbefore : EndsInSpace before) (hpart : EndsApart t part) : EndsApart t (before ++ part) := by
  rcases List.eq_nil_or_concat part with rfl | ⟨rest, c, rfl⟩
  · intro c hc
    rw [append_nil] at hc
    rw [← not_eq_true]
    intro hletter
    have hvisible := t.alphanumeric_visible c hletter
    rw [hbefore c hc] at hvisible
    cases hvisible
  · intro d hd
    refine hpart d ?_
    rw [List.concat_eq_append] at hd ⊢
    rw [← append_assoc, List.getLast?_concat] at hd
    rw [List.getLast?_concat]
    exact hd

theorem beginsApart_append (hpart : BeginsApart t part) (hafter : BeginsWithSpace after) :
    BeginsApart t (part ++ after) := by
  cases part with
  | nil =>
    intro c hc
    rw [← not_eq_true]
    intro hletter
    have hvisible := t.alphanumeric_visible c hletter
    rw [hafter c hc] at hvisible
    cases hvisible
  | cons d part => exact hpart

/-- A term begins and ends in a letter, and has no white space but the space. -/
theorem sensitiveTerms_spec : ∀ term ∈ sensitiveTerms, term.toList ≠ [] ∧
    (∀ c ∈ term.toList.head?, isWhiteSpace c = false) ∧ (∀ c ∈ term.toList.getLast?, isWhiteSpace c = false) ∧
      (' ' ∈ term.toList ∨ ∀ c ∈ term.toList, isWhiteSpace c = false) := by
  intro term hterm
  have hall : sensitiveTerms.all fun term => !term.toList.isEmpty && term.toList.head?.all (fun c => !isWhiteSpace c) &&
      term.toList.getLast?.all (fun c => !isWhiteSpace c) &&
      (term.toList.contains ' ' || term.toList.all fun c => !isWhiteSpace c) := by
    decide +kernel
  have hcase := List.all_eq_true.mp hall term hterm
  simpa [List.isEmpty_iff, and_assoc, Option.all_eq_true] using hcase

theorem stripSlash_append (h : stripSlash part ≠ []) : stripSlash (part ++ after) = stripSlash part ++ after := by
  cases part with
  | nil => exact absurd rfl h
  | cons c part =>
    by_cases hc : c = '/'
    · subst hc
      rfl
    · unfold stripSlash
      split
      · next heq => exact absurd (List.cons.inj heq).1 hc
      · split
        · next heq => exact absurd (List.cons.inj heq).1 hc
        · rfl

/-- **What stands between white space** has no finding that the text has not. -/
theorem detected_of_stands (h : Stands part text) (hpart : Detected t part) : Detected t text := by
  have hinfix := h.isInfix
  rcases hpart with ⟨marker, hmarker, hfound⟩ | hfound | hfound | hfound | hfound | ⟨term, hterm, hfound⟩
  · exact .inl ⟨marker, hmarker, hfound.trans hinfix⟩
  · refine .inr (.inl ?_)
    obtain ⟨before, after, rfl, -, -⟩ := h
    obtain ⟨before', after', rfl, hletter, hclosed⟩ := containsHtmlTag_iff.mp hfound
    have hne : stripSlash after' ≠ [] := List.ne_nil_of_mem hclosed
    refine containsHtmlTag_iff.mpr ⟨before ++ before', after' ++ after, by simp only [append_assoc, cons_append], ?_,
      ?_⟩
    · rw [stripSlash_append hne, List.head?_append_of_ne_nil _ hne]
      exact hletter
    · rw [stripSlash_append hne]
      exact List.mem_append_left _ hclosed
  · refine .inr (.inr (.inl ?_))
    obtain ⟨before, after, rfl⟩ := hinfix
    obtain ⟨before', c, d, after', rfl, hc, hd⟩ := containsEmailOrHandle_iff.mp hfound
    exact containsEmailOrHandle_iff.mpr ⟨before ++ before', c, d, after' ++ after,
      by simp only [append_assoc, cons_append], hc, hd⟩
  · obtain ⟨piece, hpiece, hphone⟩ := containsLikelyPhone_iff.mp hfound
    exact .inr (.inr (.inr (.inl (containsLikelyPhone_iff.mpr ⟨piece, hpiece.trans hinfix, hphone⟩))))
  · obtain ⟨⟨token, htoken, hnumber⟩, suffix, hsuffix, hstreet⟩ := containsLikelyStreetAddress_iff.mp hfound
    refine .inr (.inr (.inr (.inr (.inl (containsLikelyStreetAddress_iff.mpr ⟨⟨token, ?_, hnumber⟩, suffix, hsuffix, ?_⟩)))))
    · exact h.splitWhitespace_subset htoken
    · exact hstreet.trans hinfix
  · refine .inr (.inr (.inr (.inr (.inr ⟨term, hterm, ?_⟩))))
    have hne := (sensitiveTerms_spec term hterm).1
    obtain ⟨before, after, rfl, hspace, hspace'⟩ := h
    obtain ⟨before', after', rfl, hbefore, hafter⟩ := (containsBoundedTerm_iff hne).mp hfound
    exact (containsBoundedTerm_iff hne).mpr ⟨before ++ before', after' ++ after, by simp only [append_assoc],
      endsApart_append hspace hbefore, beginsApart_append hafter hspace'⟩

end Found

/-! ## Findings without white space -/

section Respacing

variable {t : CharTables} {text other before before' after piece : List Char} {c : Char} {line : List Char}

theorem mem_of_respaced (h : Respaced text other) (hc : isWhiteSpace c = false) (hmem : c ∈ text) : c ∈ other := by
  obtain ⟨before, after, heq⟩ := List.append_of_mem hmem
  obtain ⟨before', after', rfl, -, -⟩ := h.split heq hc
  exact List.mem_append_right _ mem_cons_self

theorem stripSlash_of_ne (hc : c ≠ '/') : stripSlash (c :: text) = c :: text := by
  unfold stripSlash
  split
  · next heq => exact absurd (List.cons.inj heq).1 hc
  · rfl

theorem containsHtmlTag_respaced (h : Respaced text other) (hfound : containsHtmlTag t text = true) :
    containsHtmlTag t other = true := by
  obtain ⟨before, after, rfl, hletter, hclosed⟩ := containsHtmlTag_iff.mp hfound
  obtain ⟨before', after', rfl, -, hafter⟩ := h.split rfl rfl
  have hvisible : ∀ c ∈ (stripSlash after).head?, isWhiteSpace c = false := by
    intro c hc
    rw [Option.mem_def.mp hc] at hletter
    exact t.alphabetic_visible c hletter
  have hstrip : Respaced (stripSlash after) (stripSlash after') := by
    cases after with
    | nil => cases hclosed
    | cons c after =>
      by_cases hc : c = '/'
      · subst hc
        obtain ⟨rest, rfl, hrest⟩ := @Respaced.split_leading ['/'] after' after hafter (List.forall_mem_singleton.mpr rfl)
        exact hrest
      · rw [stripSlash_of_ne hc] at hvisible ⊢
        obtain ⟨rest, rfl, hrest⟩ :=
          @Respaced.split_leading [c] after' after hafter (List.forall_mem_singleton.mpr (hvisible c rfl))
        rw [List.singleton_append, stripSlash_of_ne hc]
        exact hafter
  refine containsHtmlTag_iff.mpr ⟨before', after', rfl, ?_, mem_of_respaced hstrip rfl hclosed⟩
  rw [hstrip.head?_eq hvisible]
  exact hletter

theorem isHostChar_visible (hc : isHostChar c = true) : isWhiteSpace c = false := by
  refine not_isWhiteSpace_of_isOpaqueIdChar ?_
  unfold isHostChar at hc
  unfold isOpaqueIdChar
  simp only [or_eq_true] at hc ⊢
  tauto

theorem containsEmailOrHandle_respaced (h : Respaced text other) (hfound : containsEmailOrHandle text = true) :
    containsEmailOrHandle other = true := by
  obtain ⟨before, c, d, after, rfl, hc, hd⟩ := containsEmailOrHandle_iff.mp hfound
  have hhost : ∀ e ∈ ['@', c, d], isWhiteSpace e = false := by
    intro e he
    rcases mem_cons.mp he with rfl | he
    · rfl
    · rcases mem_cons.mp he with rfl | he
      · exact isHostChar_visible hc
      · rw [List.mem_singleton.mp he]
        exact isHostChar_visible hd
  have hsplit : before ++ '@' :: c :: d :: after = before ++ ['@', c, d] ++ after := by
    rw [append_assoc]
    rfl
  obtain ⟨before', after', rfl, -, -⟩ := h.split_part hsplit hhost (List.cons_ne_nil _ _)
  exact containsEmailOrHandle_iff.mpr ⟨before', c, d, after', by rw [append_assoc]; rfl, hc, hd⟩

theorem endsApart_respaced (h : Respaced before before') (hbefore : EndsApart t before) : EndsApart t before' := by
  intro c hc
  rw [← not_eq_true]
  intro hletter
  have hlast : ∀ d ∈ before'.getLast?, isWhiteSpace d = false := by
    intro d hd
    obtain rfl := Option.mem_unique hc hd
    exact t.alphanumeric_visible c hletter
  have hsame := hbefore c (by rw [h.symm.getLast?_eq hlast]; exact hc)
  rw [hletter] at hsame
  cases hsame

theorem beginsApart_respaced (h : Respaced before before') (hbefore : BeginsApart t before) : BeginsApart t before' := by
  intro c hc
  rw [← not_eq_true]
  intro hletter
  have hfirst : ∀ d ∈ before'.head?, isWhiteSpace d = false := by
    intro d hd
    obtain rfl := Option.mem_unique hc hd
    exact t.alphanumeric_visible c hletter
  have hsame := hbefore c (by rw [h.symm.head?_eq hfirst]; exact hc)
  rw [hletter] at hsame
  cases hsame

theorem containsBoundedTerm_respaced {term : String} (h : Respaced text other) (hne : term.toList ≠ [])
    (hterm : ∀ c ∈ term.toList, isWhiteSpace c = false) (hfound : containsBoundedTerm t text term = true) :
    containsBoundedTerm t other term = true := by
  obtain ⟨before, after, rfl, hbefore, hafter⟩ := (containsBoundedTerm_iff hne).mp hfound
  obtain ⟨before', after', rfl, hbefore', hafter'⟩ := h.split_part rfl hterm hne
  exact (containsBoundedTerm_iff hne).mpr
    ⟨before', after', rfl, endsApart_respaced hbefore' hbefore, beginsApart_respaced hafter' hafter⟩

/-! ## Findings with white space -/

theorem mem_squeeze (hmem : c ∈ squeeze text) : c = ' ' ∨ c ∈ text ∧ isWhiteSpace c = false := by
  induction text with
  | nil => cases hmem
  | cons d text ih =>
    have hlater : c ∈ squeeze text → c = ' ' ∨ c ∈ d :: text ∧ isWhiteSpace c = false :=
      fun hmem => (ih hmem).imp_right fun h => ⟨mem_cons_of_mem _ h.1, h.2⟩
    rw [squeeze] at hmem
    split at hmem
    · next hd =>
      rcases mem_cons.mp hmem with rfl | hmem
      · exact .inr ⟨mem_cons_self, hd⟩
      · exact hlater hmem
    · split at hmem
      · exact hlater hmem
      · rcases mem_cons.mp hmem with rfl | hmem
        · exact .inl rfl
        · exact hlater hmem

theorem space_mem_squeeze (hmem : c ∈ text) (hc : isWhiteSpace c = true) : ' ' ∈ squeeze text := by
  induction text with
  | nil => cases hmem
  | cons d text ih =>
    rcases mem_cons.mp hmem with rfl | hmem
    · obtain ⟨more, hmore⟩ := @squeeze_of_space (c :: text) hc
      rw [hmore]
      exact mem_cons_self
    · rw [squeeze]
      split
      · exact mem_cons_of_mem _ (ih hmem)
      · split
        · exact ih hmem
        · exact mem_cons_of_mem _ (ih hmem)

theorem isDigit_visible (hc : c.isDigit = true) : isWhiteSpace c = false :=
  not_isWhiteSpace_of_isOpaqueIdChar (by simp [isOpaqueIdChar, Char.isAlphanum, hc])

theorem countP_isDigit_squeeze : (squeeze text).countP Char.isDigit = text.countP Char.isDigit := by
  induction text with
  | nil => rfl
  | cons c text ih =>
    by_cases hc : isWhiteSpace c = true
    · have hdigit : ¬ c.isDigit = true := by
        intro hdigit
        rw [isDigit_visible hdigit] at hc
        cases hc
      rw [squeeze_cons_space hc, List.countP_cons_of_neg hdigit]
      split
      · exact ih
      · rw [List.countP_cons_of_neg (by decide), ih]
    · rw [squeeze_cons_visible (not_eq_true _ ▸ hc), List.countP_cons, List.countP_cons, ih]

theorem splitWhitespace_squeeze : splitWhitespace (squeeze text) = splitWhitespace text := by
  induction text with
  | nil => rfl
  | cons c text ih =>
    by_cases hc : isWhiteSpace c = true
    · rw [squeeze_cons_space hc, splitWhitespace_cons hc]
      split
      · exact ih
      · rw [splitWhitespace_cons rfl, ih]
    · rw [not_eq_true] at hc
      rw [squeeze_cons_visible hc]
      cases text with
      | nil => rfl
      | cons d text =>
        by_cases hd : isWhiteSpace d = true
        · obtain ⟨more, hmore⟩ := @squeeze_of_space (d :: text) hd
          have hspace : BeginsWithSpace (squeeze (d :: text)) := by
            rw [hmore]
            exact beginsWithSpace_cons rfl
          rw [splitWhitespace_cons_edge hc hspace, splitWhitespace_cons_edge hc (beginsWithSpace_cons hd), ih]
        · rw [not_eq_true] at hd
          rw [squeeze_cons_visible hd] at ih ⊢
          obtain ⟨word, words, hwords, hmore⟩ := @splitWhitespace_cons_visible (squeeze text) c d hc hd
          obtain ⟨word', words', hwords', hmore'⟩ := @splitWhitespace_cons_visible text c d hc hd
          rw [hwords, hwords'] at ih
          obtain ⟨rfl, rfl⟩ := List.cons.inj ih
          rw [hmore, hmore']

/-- A visible character cuts a squeezed text where it cuts the text. -/
theorem squeeze_append_visible (hc : isWhiteSpace c = false) :
    squeeze (before ++ c :: after) = squeeze before ++ c :: squeeze after := by
  induction before with
  | nil => exact squeeze_cons_visible hc
  | cons d before ih =>
    have hhead : (before ++ c :: after).head?.any isWhiteSpace = before.head?.any isWhiteSpace := by
      cases before with
      | nil => exact hc
      | cons e before => rfl
    rw [cons_append, squeeze, squeeze, ih, hhead]
    split
    · rfl
    · split <;> rfl

/-- **A line spells across its white space** what is sought with a space in it: a part of it, in lower case and with any
white space for a space, is a marker, a term with nothing next to it, or a street word beside a number somewhere; or has
seven digits with white space and separators between or behind them. -/
inductive SpellsAcross (t : CharTables) (text : List Char) : Prop where
  | marker {marker : String} {piece : List Char} : marker ∈ markers → ' ' ∈ marker.toList → piece <:+: text →
      squeeze piece = marker.toList → SpellsAcross t text
  | term {term : String} {before piece after : List Char} : term ∈ sensitiveTerms → ' ' ∈ term.toList →
      text = before ++ piece ++ after → squeeze piece = term.toList → EndsApart t before → BeginsApart t after →
      SpellsAcross t text
  | phone {piece : List Char} : piece <:+: text →
      (∀ c ∈ piece, c.isDigit = true ∨ isPhoneSeparator c = true ∨ isWhiteSpace c = true) →
      (∀ c ∈ piece.head?, c.isDigit = true) → 7 ≤ piece.countP Char.isDigit → (∃ c ∈ piece, c.isDigit = false) →
      SpellsAcross t text
  | street {token piece : List Char} {suffix : String} : token ∈ splitWhitespace text → isNumberToken token = true →
      suffix ∈ streetSuffixes → piece <:+: text → squeeze piece = suffix.toList → SpellsAcross t text

theorem markers_cases : ∀ marker ∈ markers,
    ' ' ∈ marker.toList ∨ marker.toList ≠ [] ∧ ∀ c ∈ marker.toList, isWhiteSpace c = false := by
  intro marker hmarker
  have hall : markers.all fun marker => marker.toList.contains ' ' ||
      (!marker.toList.isEmpty && marker.toList.all fun c => !isWhiteSpace c) := by
    decide +kernel
  have hcase := List.all_eq_true.mp hall marker hmarker
  simpa [List.isEmpty_iff] using hcase

/-- **What is found in a squeezed text** is found in the text, or spelled across its white space. -/
theorem detected_or_spellsAcross (h : Detected t (squeeze text)) : Detected t text ∨ SpellsAcross t text := by
  have hrespaced := (respaced_squeeze text).symm
  rcases h with ⟨marker, hmarker, hfound⟩ | hfound | hfound | hfound | hfound | ⟨term, hterm, hfound⟩
  · rcases markers_cases marker hmarker with hspace | ⟨hne, hvisible⟩
    · obtain ⟨piece, hpiece, heq⟩ := isInfix_squeeze_iff.mp hfound
      exact .inr (.marker hmarker hspace hpiece heq)
    · obtain ⟨before, after, heq⟩ := hfound
      obtain ⟨before', after', rfl, -, -⟩ := hrespaced.split_part heq.symm hvisible hne
      exact .inl (.inl ⟨marker, hmarker, before', after', rfl⟩)
  · exact .inl (.inr (.inl (containsHtmlTag_respaced hrespaced hfound)))
  · exact .inl (.inr (.inr (.inl (containsEmailOrHandle_respaced hrespaced hfound))))
  · obtain ⟨piece, hpiece, hphone⟩ := containsLikelyPhone_iff.mp hfound
    obtain ⟨piece, hpiece', rfl⟩ := isInfix_squeeze_iff.mp hpiece
    have hdigit : ∀ c ∈ (squeeze piece).head?, isWhiteSpace c = false :=
      fun c hc => isDigit_visible (hphone.digitFirst c hc)
    refine .inr (.phone hpiece' (fun c hc => ?_) (fun c hc => ?_) ?_ ?_)
    · by_cases hspace : isWhiteSpace c = true
      · exact .inr (.inr hspace)
      · have hmem := mem_of_respaced (respaced_squeeze piece) (not_eq_true _ ▸ hspace) hc
        exact (hphone.chars c hmem).imp_right .inl
    · refine hphone.digitFirst c ?_
      rw [← (respaced_squeeze piece).symm.head?_eq hdigit]
      exact hc
    · exact countP_isDigit_squeeze ▸ hphone.long
    · obtain ⟨c, hc, hother⟩ := List.countP_pos_iff.mp hphone.broken
      have hother : c.isDigit = false := by simpa using hother
      rcases mem_squeeze hc with rfl | ⟨hc, -⟩
      · -- The space is there for some white space.
        by_contra hnone
        have hvisible : ∀ d ∈ piece, isWhiteSpace d = false := by
          intro d hd
          refine isDigit_visible ?_
          by_contra hd'
          exact hnone ⟨d, hd, not_eq_true _ ▸ hd'⟩
        have hsame := @squeeze_visible_append [] piece hvisible
        rw [append_nil] at hsame
        rw [hsame] at hc
        have hspace := hvisible ' ' (by simpa [squeeze] using hc)
        cases hspace
      · exact ⟨c, hc, hother⟩
  · obtain ⟨⟨token, htoken, hnumber⟩, suffix, hsuffix, hstreet⟩ := containsLikelyStreetAddress_iff.mp hfound
    obtain ⟨piece, hpiece, heq⟩ := isInfix_squeeze_iff.mp hstreet
    exact .inr (.street (splitWhitespace_squeeze ▸ htoken) hnumber hsuffix hpiece heq)
  · obtain ⟨hne, -, -, hcase⟩ := sensitiveTerms_spec term hterm
    rcases hcase with hspace | hvisible
    · obtain ⟨before, after, heq, hbefore, hafter⟩ := (containsBoundedTerm_iff hne).mp hfound
      obtain ⟨front, after', rfl, hfront, rfl⟩ := squeeze_split heq
      obtain ⟨before', piece, rfl, rfl, hpiece⟩ := squeeze_split hfront
      exact .inr (.term hterm hspace rfl hpiece (endsApart_respaced (respaced_squeeze before').symm hbefore)
        (beginsApart_respaced (respaced_squeeze after').symm hafter))
    · exact .inl (.inr (.inr (.inr (.inr (.inr ⟨term, hterm, containsBoundedTerm_respaced hrespaced hne hvisible hfound⟩)))))

theorem squeeze_append_of_visible (htext : ∀ c ∈ text.head?, isWhiteSpace c = false) :
    squeeze (before ++ text) = squeeze before ++ squeeze text := by
  cases text with
  | nil => rw [append_nil]; exact (append_nil _).symm
  | cons c text => rw [squeeze_append_visible (htext c rfl), squeeze_cons_visible (htext c rfl)]

theorem squeeze_append_of_visible_last (htext : ∀ c ∈ text.getLast?, isWhiteSpace c = false) :
    squeeze (text ++ after) = squeeze text ++ squeeze after := by
  rcases List.eq_nil_or_concat text with rfl | ⟨front, c, rfl⟩
  · rfl
  · rw [List.concat_eq_append] at htext ⊢
    have hc : isWhiteSpace c = false := htext c (by rw [List.getLast?_concat]; rfl)
    have hlast : squeeze [c] = [c] := squeeze_cons_visible hc
    rw [append_assoc, List.singleton_append, squeeze_append_visible hc, squeeze_append_visible hc]
    rw [append_assoc]
    rfl

/-- **What is spelled across white space** is found in the squeezed text. -/
theorem detected_of_spellsAcross (h : SpellsAcross t text) : Detected t (squeeze text) := by
  cases h with
  | @marker marker piece hmarker _ hpiece heq =>
    exact .inl ⟨marker, hmarker, isInfix_squeeze_iff.mpr ⟨piece, hpiece, heq⟩⟩
  | @term term before piece after hterm _ htext heq hbefore hafter =>
    refine .inr (.inr (.inr (.inr (.inr ⟨term, hterm, ?_⟩))))
    refine (containsBoundedTerm_iff ((sensitiveTerms_spec term hterm).1)).mpr ⟨squeeze before, squeeze after, ?_,
      endsApart_respaced (respaced_squeeze before) hbefore, beginsApart_respaced (respaced_squeeze after) hafter⟩
    obtain ⟨hne, hfirst, hlast, -⟩ := sensitiveTerms_spec term hterm
    rw [← heq] at hne hfirst hlast ⊢
    have hpiece := (respaced_squeeze piece).symm
    rw [htext, squeeze_append_of_visible_last, squeeze_append_of_visible]
    · rw [hpiece.head?_eq hfirst]
      exact hfirst
    · have hpiecene : piece ≠ [] := fun hempty => hne (by rw [hempty]; rfl)
      rw [List.getLast?_append_of_ne_nil _ hpiecene, hpiece.getLast?_eq hlast]
      exact hlast
  | @phone piece hpiece hchars hfirst hlong hbroken =>
    refine .inr (.inr (.inr (.inl (containsLikelyPhone_iff.mpr ⟨squeeze piece, squeeze_isInfix hpiece, ?_⟩))))
    have hvisible : ∀ c ∈ piece.head?, isWhiteSpace c = false := fun c hc => isDigit_visible (hfirst c hc)
    refine ⟨⟨fun c hc => ?_, ?_⟩, countP_isDigit_squeeze.symm ▸ hlong, ?_⟩
    · rcases mem_squeeze hc with rfl | ⟨hc, hcvisible⟩
      · exact .inr rfl
      · refine (hchars c hc).imp_right fun h => h.resolve_right fun hspace => ?_
        rw [hspace] at hcvisible
        cases hcvisible
    · rw [(respaced_squeeze piece).head?_eq hvisible]
      exact hfirst
    · obtain ⟨c, hc, hother⟩ := hbroken
      rw [List.countP_pos_iff]
      by_cases hspace : isWhiteSpace c = true
      · exact ⟨' ', space_mem_squeeze hc hspace, rfl⟩
      · refine ⟨c, mem_of_respaced (respaced_squeeze piece) (not_eq_true _ ▸ hspace) hc, ?_⟩
        rw [hother]
        rfl
  | @street token piece suffix htoken hnumber hsuffix hpiece heq =>
    exact .inr (.inr (.inr (.inr (.inl (containsLikelyStreetAddress_iff.mpr
      ⟨⟨token, splitWhitespace_squeeze.symm ▸ htoken, hnumber⟩, suffix, hsuffix,
        isInfix_squeeze_iff.mpr ⟨piece, hpiece, heq⟩⟩)))))

end Respacing

/-! ## The facts that are kept -/

section Kept

variable {context : ReviewContext} {bytes : ByteArray} {prompt : EventPrompt} {content body line : List Char}

theorem parseMarkdownDocument_eq_ok {parse : String → Option EventPromptMetadata} {metadata : EventPromptMetadata}
    (h : parseMarkdownDocument parse content = .ok (metadata, body)) :
    ∃ ls, body = ['\n'].intercalate ls ∧ ls ⊆ (lines (stripMark content)).tail := by
  unfold parseMarkdownDocument at h
  split at h
  · cases h
  · next first rest hlines =>
    split at h
    · cases h
    · split at h
      · cases h
      · next closing ls hrest =>
        dsimp only at h
        obtain ⟨parsed, -, h⟩ := bind_eq_ok.mp h
        cases h
        refine ⟨ls, rfl, fun line hline => ?_⟩
        rw [hlines]
        have hsuffix : closing :: ls <:+ rest := hrest ▸ List.dropWhile_suffix _
        exact hsuffix.subset (mem_cons_of_mem _ hline)

/-- **A fact line stands in its source.** -/
theorem ApprovedSource.stands (h : ApprovedSource context bytes prompt content body)
    (hline : line ∈ sourceFactLines context bytes) : Stands line content := by
  rw [h.factLines] at hline
  obtain ⟨-, whole, hwhole, rfl⟩ := mem_factLines hline
  obtain ⟨ls, rfl, hls⟩ := parseMarkdownDocument_eq_ok h.parsed
  have hnone : ∀ line ∈ ls, '\n' ∉ line := fun line hline => (lines_stands (List.mem_of_mem_tail (hls hline))).2
  obtain ⟨first, hfirst, hstands⟩ := lines_join_stands hnone hwhole
  obtain ⟨before, rest, hcontent, hrest⟩ := linesFrom_tail (hls hfirst)
  have hmark : ∃ mark, content = mark ++ stripMark content := by
    unfold stripMark
    split
    · next hhead =>
      obtain ⟨tail, rfl⟩ := List.head?_eq_some_iff.mp hhead
      exact ⟨['\uFEFF'], rfl⟩
    · exact ⟨[], rfl⟩
  obtain ⟨mark, hmark⟩ := hmark
  rw [hmark, hcontent, ← append_assoc]
  exact ((stands_trim whole).trans (hstands.trans (lines_stands hrest).1)).behind rfl

/-- **The facts of an approved prompt are clean** if and only if no fact line spells across its white space what is
sought with a space in it. -/
theorem facts_clean_iff (h : reviewSourceBytes context bytes = .approved prompt) :
    (∀ fact ∈ prompt.inspiration.facts, scanSource context.tables fact.toList = ∅) ↔
      ∀ line ∈ sourceFactLines context bytes, ¬ SpellsAcross context.tables (lowercase context.tables line) := by
  obtain ⟨content, body, happroved⟩ := reviewSourceBytes_eq_approved h
  have hfacts : (∀ fact ∈ prompt.inspiration.facts, scanSource context.tables fact.toList = ∅) ↔
      ∀ line ∈ sourceFactLines context bytes, scanSource context.tables (collapse line) = ∅ := by
    rw [happroved.facts, List.forall_mem_map]
    simp only [String.toList_ofList]
  rw [hfacts]
  refine forall_congr' fun line => imp_congr_right fun hline => ?_
  have hlowered : lowercase context.tables (collapse line) = squeeze (lowercase context.tables line) := by
    rw [(respaced_lowercase (respaced_of_factLine hline)).squeeze_eq]
    exact (squeeze_lowerFrom (squeeze_collapse line)).symm
  rw [scanSource_eq_empty, hlowered]
  constructor
  · intro hclean hspells
    exact hclean (detected_of_spellsAcross hspells)
  · intro hspells hfound
    rcases detected_or_spellsAcross hfound with hline' | hacross
    · have hcontent := detected_of_stands (stands_lowercase (happroved.stands hline)) hline'
      exact scanSource_eq_empty.mp happroved.scanned hcontent
    · exact hspells hacross

end Kept

/-! ## A tram of words -/

theorem reviewContent_wide : reviewContent tramReview (stripMark (tramSource "Ignore  previous stops.").toList) =
    (∅, some (tramMetadata, ⟨["Ignore previous stops."]⟩)) := by
  decide +kernel

/-- Two spaces hide an instruction from the scan, and one of them is dropped behind it. -/
theorem wide_tram_unclean : ¬ ∀ fact ∈ (tramPrompt "Ignore previous stops.").inspiration.facts,
    scanSource latinCharTables fact.toList = ∅ := by
  have hline : "Ignore  previous stops.".toList ∈
      sourceFactLines tramReview (tramSource "Ignore  previous stops.").toByteArray := by
    have hparsed : parseMarkdownDocument tramReview.parse (stripMark (tramSource "Ignore  previous stops.").toList) =
        .ok (tramMetadata, "## Inspiration\nIgnore  previous stops.".toList) := by
      decide +kernel
    unfold sourceFactLines
    rw [fromUTF8?_tramSource]
    dsimp only
    rw [hparsed]
    decide +kernel
  intro hclean
  refine (facts_clean_iff (reviewSourceBytes_tram reviewContent_wide)).mp hclean _ hline ?_
  refine @SpellsAcross.marker latinCharTables _ "ignore previous" "ignore  previous".toList ?_ ?_ ?_ ?_
  all_goals decide +kernel

theorem wide_tram_found : ∃ context bytes prompt, reviewSourceBytes context bytes = .approved prompt ∧
    ∃ fact ∈ prompt.inspiration.facts, scanSource context.tables fact.toList ≠ ∅ := by
  refine ⟨_, _, _, reviewSourceBytes_tram reviewContent_wide, _, mem_cons_self, ?_⟩
  decide +kernel

end ManchesterArcana.Events
