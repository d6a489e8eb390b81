import Mathlib

/-!
# `Core.Casing` — lower case, Unicode and ASCII

`str::to_lowercase` writes each character in lower case by the tables of the Unicode standard, and a capital sigma by
where it stands in its word; `str::to_ascii_lowercase` leaves all but the ASCII capitals alone. The tables are not in
the program: `CaseTables` has them with what the standard says of them. The two agree on a text exactly if lower case
leaves its characters beyond ASCII alone (`map_toLower_eq_iff`); and the first undoes nothing that the second does
(`lowerFrom_map_toLower`).
-/

namespace ManchesterArcana

/-- The case tables of the Unicode standard, and what can be relied on. -/
structure CaseTables where
  lower : Char → List Char
  cased : Char → Bool
  caseIgnorable : Char → Bool
  lower_ascii : ∀ c : Char, c.toNat < 128 → lower c = [c.toLower]
  lower_ne_nil : ∀ c, lower c ≠ []
  /-- What is in lower case stays as it is. -/
  lower_stable : ∀ c, ∀ d ∈ lower c, lower d = [d]
  lower_capitalSigma : lower 'Σ' = ['σ']
  lower_finalSigma : lower 'ς' = ['ς']
  letter_cased : ∀ c : Char, c.isAlpha = true → cased c = true ∧ caseIgnorable c = false

namespace CaseTables

variable (t : CaseTables)

def caseIgnorableThenCased (cs : List Char) : Bool :=
  match cs.dropWhile t.caseIgnorable with
  | [] => false
  | c :: _ => t.cased c

/-- `map_uppercase_sigma`, between what stands before it (read backwards) and what stands behind. -/
def sigmaIn (before rest : List Char) : Char :=
  if t.caseIgnorableThenCased before = true ∧ t.caseIgnorableThenCased rest = false then 'ς' else 'σ'

/-- One character in lower case, in its place. -/
def lowerIn (before : List Char) (c : Char) (rest : List Char) : List Char :=
  if c = 'Σ' then [t.sigmaIn before rest] else t.lower c

def lowerFrom (before : List Char) : List Char → List Char
  | [] => []
  | c :: rest => t.lowerIn before c rest ++ lowerFrom (c :: before) rest

/-- `str::to_lowercase`. -/
def toLowercase (value : String) : String := String.ofList (t.lowerFrom [] value.toList)

variable {t}

/-- Already in lower case. -/
def Lowered (t : CaseTables) (c : Char) : Prop := t.lower c = [c]

variable {c : Char} {before cs : List Char}

theorem Lowered.not_capitalSigma (h : t.Lowered c) : c ≠ 'Σ' := by
  rintro rfl
  have heq := t.lower_capitalSigma.symm.trans h
  revert heq
  decide

theorem lowered_smallSigma : t.Lowered 'σ' :=
  t.lower_stable 'Σ' 'σ' (by rw [t.lower_capitalSigma]; exact List.mem_singleton_self _)

theorem lowerIn_lowered {rest : List Char} {d : Char} (h : d ∈ t.lowerIn before c rest) : t.Lowered d := by
  unfold lowerIn at h
  split at h
  · rw [List.mem_singleton.mp h]
    unfold sigmaIn
    split
    · exact t.lower_finalSigma
    · exact lowered_smallSigma
  · exact t.lower_stable c d h

theorem lowerFrom_lowered : ∀ d ∈ t.lowerFrom before cs, t.Lowered d := by
  induction cs generalizing before with
  | nil => exact fun _ h => absurd h List.not_mem_nil
  | cons c rest ih =>
    intro d hd
    rcases List.mem_append.mp hd with hd | hd
    · exact lowerIn_lowered hd
    · exact ih d hd

/-- **Lower case is stable.** -/
theorem lowerFrom_of_lowered (h : ∀ c ∈ cs, t.Lowered c) : t.lowerFrom before cs = cs := by
  induction cs generalizing before with
  | nil => rfl
  | cons c rest ih =>
    obtain ⟨hc, hrest⟩ := List.forall_mem_cons.mp h
    have hlower : t.lower c = [c] := hc
    rw [lowerFrom, lowerIn, if_neg hc.not_capitalSigma, hlower, ih hrest]
    rfl

/-! ## ASCII -/

/-- `str::to_ascii_lowercase`. -/
def asciiLowercase (value : String) : String := String.ofList (value.toList.map Char.toLower)

theorem toLower_of_beyond (h : 128 ≤ c.toNat) : c.toLower = c := by
  refine Char.toLower_eq_of_not_isUpper fun hupper => ?_
  simp only [Char.isUpper, decide_eq_true_eq, UInt32.le_iff_toNat_le] at hupper
  have hlast : c.toNat ≤ 90 := hupper.2
  omega

/-- No ASCII letter becomes anything else. -/
theorem toLower_eq_iff {d : Char} (hd : d.isAlpha = false) : c.toLower = d ↔ c = d := by
  by_cases hupper : c.isUpper = true
  · have halpha : c.isAlpha = true := by rw [Char.isAlpha, hupper, Bool.true_or]
    constructor
    · rintro rfl
      rw [Char.isAlpha_toLower_eq_isAlpha, halpha] at hd
      cases hd
    · rintro rfl
      rw [halpha] at hd
      cases hd
  · rw [Char.toLower_eq_of_not_isUpper hupper]

/-- An ASCII capital stands in its word as its small letter does. -/
theorem cased_toLower (c : Char) : t.cased c.toLower = t.cased c ∧ t.caseIgnorable c.toLower = t.caseIgnorable c := by
  by_cases hupper : c.isUpper = true
  · have halpha : c.isAlpha = true := by rw [Char.isAlpha, hupper, Bool.true_or]
    obtain ⟨hcased, hignorable⟩ := t.letter_cased c halpha
    obtain ⟨hcased', hignorable'⟩ := t.letter_cased c.toLower (by rwa [Char.isAlpha_toLower_eq_isAlpha])
    exact ⟨hcased'.trans hcased.symm, hignorable'.trans hignorable.symm⟩
  · rw [Char.toLower_eq_of_not_isUpper hupper]
    exact ⟨rfl, rfl⟩

theorem caseIgnorableThenCased_map_toLower (cs : List Char) :
    t.caseIgnorableThenCased (cs.map Char.toLower) = t.caseIgnorableThenCased cs := by
  induction cs with
  | nil => rfl
  | cons c cs ih =>
    obtain ⟨hcased, hignorable⟩ := t.cased_toLower c
    unfold caseIgnorableThenCased at ih ⊢
    rw [List.map_cons, List.dropWhile_cons, List.dropWhile_cons, hignorable]
    cases t.caseIgnorable c with
    | true => exact ih
    | false => exact hcased

/-- A character in lower case, whether or not ASCII capitals about it are. -/
theorem lowerIn_map_toLower (before : List Char) (c : Char) (rest : List Char) :
    t.lowerIn (before.map Char.toLower) c.toLower (rest.map Char.toLower) = t.lowerIn before c rest := by
  unfold lowerIn sigmaIn
  rw [caseIgnorableThenCased_map_toLower, caseIgnorableThenCased_map_toLower]
  by_cases hsigma : c = 'Σ'
  · rw [if_pos hsigma, if_pos ((toLower_eq_iff rfl).mpr hsigma)]
  · rw [if_neg hsigma, if_neg (mt (toLower_eq_iff rfl).mp hsigma)]
    rcases Nat.lt_or_ge c.toNat 128 with hascii | hbeyond
    · have hsmall : c.toLower ∈ t.lower c := by
        rw [t.lower_ascii c hascii]
        exact List.mem_singleton_self _
      rw [t.lower_stable c _ hsmall, t.lower_ascii c hascii]
    · rw [toLower_of_beyond hbeyond]

/-- **ASCII lower case first makes no difference.** -/
theorem lowerFrom_map_toLower (before cs : List Char) :
    t.lowerFrom (before.map Char.toLower) (cs.map Char.toLower) = t.lowerFrom before cs := by
  induction cs generalizing before with
  | nil => rfl
  | cons c rest ih =>
    show t.lowerIn _ c.toLower _ ++ t.lowerFrom ((c :: before).map Char.toLower) (rest.map Char.toLower) = _
    rw [ih, lowerIn_map_toLower]
    rfl

theorem lowerIn_ne_nil (before : List Char) (c : Char) (rest : List Char) : t.lowerIn before c rest ≠ [] := by
  unfold lowerIn
  split
  · exact List.cons_ne_nil _ _
  · exact t.lower_ne_nil c

theorem length_le_lowerFrom (before cs : List Char) : cs.length ≤ (t.lowerFrom before cs).length := by
  induction cs generalizing before with
  | nil => exact Nat.le_refl _
  | cons c rest ih =>
    have hpos := List.length_pos_of_ne_nil (t.lowerIn_ne_nil before c rest)
    have hrest := ih (c :: before)
    rw [lowerFrom, List.length_append, List.length_cons]
    omega

/-- **Both lower cases agree** on a text that has nothing to lower beyond ASCII, and on no other: a character that
    becomes several cannot be made up for, as none becomes nothing. -/
theorem map_toLower_eq_iff :
    cs.map Char.toLower = t.lowerFrom before cs ↔ ∀ c ∈ cs, 128 ≤ c.toNat → t.Lowered c := by
  induction cs generalizing before with
  | nil => exact ⟨fun _ c hc => absurd hc List.not_mem_nil, fun _ => rfl⟩
  | cons c rest ih =>
    rw [List.forall_mem_cons, List.map_cons, lowerFrom]
    constructor
    · intro h
      have hlength := congrArg List.length h
      have hpos := List.length_pos_of_ne_nil (t.lowerIn_ne_nil before c rest)
      have hrest := t.length_le_lowerFrom (c :: before) rest
      rw [List.length_cons, List.length_map, List.length_append] at hlength
      obtain ⟨d, hd⟩ := List.length_eq_one_iff.mp (show (t.lowerIn before c rest).length = 1 by omega)
      rw [hd, List.singleton_append] at h
      obtain ⟨hhead, htail⟩ := List.cons.inj h
      refine ⟨fun hbeyond => ?_, ih.mp htail⟩
      have hlowered := t.lowerIn_lowered (hd ▸ List.mem_singleton_self d)
      rwa [← hhead, toLower_of_beyond hbeyond] at hlowered
    · rintro ⟨hc, hrest⟩
      rw [← ih.mpr hrest]
      rcases Nat.lt_or_ge c.toNat 128 with hascii | hbeyond
      · have hsigma : c ≠ 'Σ' := by
          rintro rfl
          exact absurd hascii (by decide)
        rw [lowerIn, if_neg hsigma, t.lower_ascii c hascii]
        rfl
      · have hlower : t.lower c = [c] := hc hbeyond
        rw [lowerIn, if_neg (hc hbeyond).not_capitalSigma, hlower, toLower_of_beyond hbeyond]
        rfl

theorem toLowercase_asciiLowercase (value : String) : t.toLowercase (asciiLowercase value) = t.toLowercase value := by
  unfold toLowercase asciiLowercase
  rw [String.toList_ofList]
  exact congrArg String.ofList (t.lowerFrom_map_toLower [] value.toList)

theorem toLowercase_toLowercase (value : String) : t.toLowercase (t.toLowercase value) = t.toLowercase value := by
  unfold toLowercase
  rw [String.toList_ofList]
  exact congrArg String.ofList (t.lowerFrom_of_lowered t.lowerFrom_lowered)

theorem asciiLowercase_eq_toLowercase {value : String} :
    asciiLowercase value = t.toLowercase value ↔ ∀ c ∈ value.toList, 128 ≤ c.toNat → t.Lowered c := by
  unfold toLowercase asciiLowercase
  rw [String.ofList_inj]
  exact t.map_toLower_eq_iff

end CaseTables

end ManchesterArcana
