import ManchesterArcana.Events.Review
import Mathlib.Data.List.Sort

/-!
# `Events.Partition` — the review of a pack

A directory is searched for Markdown files, and each is reviewed alone. What passes is approved if nothing else that
passes has its id; otherwise every source with the id is quarantined. The files are put in order first, so it does not
matter how the directories list them (`review_partitions`).
-/

namespace ManchesterArcana.Events

open Effect

variable {Path ε : Type}

/-! ## Loading -/

/-- The cases of `EventPromptError` that the loading of a directory meets. -/
inductive EventPromptLoadError (Path ε : Type) where
  | io (e : ε)
  | pathOutsideRoot (path root : Path)
  | tooManyPrompts (found maximum : Nat)

/-- What is asked of the file system. -/
structure SourceFiles (Path ε : Type) where
  root : Path
  canonicalize : Path → Except ε Path
  startsWith : Path → Path → Bool
  readBoundedFile : Path → Except ε ByteArray

structure EventPromptLoadReview where
  approvedPrompts : List EventPrompt
  quarantinedSources : List EventSourceQuarantine

/-- The review of one file. -/
def reviewFile (context : ReviewContext) (files : SourceFiles Path ε) (path : Path) :
    Except (EventPromptLoadError Path ε) (List ReviewedEventSource) := do
  let canonicalPath ← (files.canonicalize path).mapError .io
  rejectIf (files.startsWith canonicalPath files.root = false) (.pathOutsideRoot canonicalPath files.root)
  let bytes ← (files.readBoundedFile canonicalPath).mapError .io
  return [reviewSourceBytes context bytes]

/-- How many approved candidates have the id. -/
def idCounts (candidates : List ReviewedEventSource) (id : String) : Nat :=
  candidates.countP fun
    | .approved prompt => prompt.metadata.id = id
    | .quarantined _ => false

/-- The candidates one by one, with the counts of all. -/
def divide (counts : String → Nat) : List ReviewedEventSource → EventPromptLoadReview
  | [] => ⟨[], []⟩
  | .approved prompt :: rest =>
    let review := divide counts rest
    if counts prompt.metadata.id = 1 then { review with approvedPrompts := prompt :: review.approvedPrompts }
    else { review with quarantinedSources :=
      quarantineSummary prompt.sourceDigest {.duplicateSourceId} :: review.quarantinedSources }
  | .quarantined summary :: rest =>
    let review := divide counts rest
    { review with quarantinedSources := summary :: review.quarantinedSources }

/-- The review of the Markdown files that were found. Nothing is promised of the order of summaries with one digest. -/
def loadDirReviewed [LinearOrder Path] (context : ReviewContext) (files : SourceFiles Path ε)
    (markdownFiles : List Path) : Except (EventPromptLoadError Path ε) EventPromptLoadReview := do
  let markdownFiles := markdownFiles.mergeSort (· ≤ ·)
  rejectIf (maxEventPrompts < markdownFiles.length) (.tooManyPrompts markdownFiles.length maxEventPrompts)
  let candidates ← gather (reviewFile context files) markdownFiles
  let review := divide (idCounts candidates) candidates
  return {
    approvedPrompts := review.approvedPrompts.mergeSort fun left right => left.metadata.id ≤ right.metadata.id
    quarantinedSources := review.quarantinedSources.mergeSort fun left right =>
      left.sourceDigest.value ≤ right.sourceDigest.value }

/-! ## What becomes of a candidate -/

/-- A candidate beside the others: approved if it is acceptable and alone with its id. -/
def settled (candidates : List ReviewedEventSource) : ReviewedEventSource → ReviewedEventSource
  | .approved prompt =>
    if idCounts candidates prompt.metadata.id = 1 then .approved prompt
    else .quarantined (quarantineSummary prompt.sourceDigest {.duplicateSourceId})
  | .quarantined summary => .quarantined summary

/-- Everything in a review, on whichever side. -/
def EventPromptLoadReview.all (review : EventPromptLoadReview) : List ReviewedEventSource :=
  review.approvedPrompts.map .approved ++ review.quarantinedSources.map .quarantined

section Division

variable {candidates rest : List ReviewedEventSource}

/-- **Each candidate ends up on one side**, once. -/
theorem divide_all : (divide (idCounts candidates) rest).all.Perm (rest.map (settled candidates)) := by
  induction rest with
  | nil => exact .nil
  | cons candidate rest ih =>
    rw [List.map_cons]
    cases candidate with
    | approved prompt =>
      by_cases hone : idCounts candidates prompt.metadata.id = 1
      · simp only [divide, settled, if_pos hone]
        exact ih.cons _
      · simp only [divide, settled, if_neg hone]
        exact List.perm_middle.trans (ih.cons _)
    | quarantined summary => exact List.perm_middle.trans (ih.cons _)

theorem counts_of_approved {counts : String → Nat} {prompt : EventPrompt}
    (h : prompt ∈ (divide counts rest).approvedPrompts) : counts prompt.metadata.id = 1 := by
  induction rest with
  | nil => cases h
  | cons candidate rest ih =>
    cases candidate with
    | approved first =>
      unfold divide at h
      by_cases hone : counts first.metadata.id = 1
      · rw [if_pos hone] at h
        rcases List.mem_cons.mp h with rfl | h
        · exact hone
        · exact ih h
      · rw [if_neg hone] at h
        exact ih h
    | quarantined _ => exact ih h

theorem countP_approved_le (counts : String → Nat) {id : String} :
    (divide counts rest).approvedPrompts.countP (fun prompt => prompt.metadata.id == id) ≤ idCounts rest id := by
  induction rest with
  | nil => exact Nat.le_refl 0
  | cons candidate rest ih =>
    unfold idCounts at ih ⊢
    rw [List.countP_cons]
    cases candidate with
    | approved prompt =>
      unfold divide
      by_cases hone : counts prompt.metadata.id = 1
      · rw [if_pos hone, List.countP_cons]
        exact Nat.add_le_add_right ih _
      · rw [if_neg hone]
        exact Nat.le_add_right_of_le ih
    | quarantined _ => exact Nat.le_add_right_of_le ih

/-- No two approved prompts have one id, by the count of it. -/
theorem divide_nodup : ((divide (idCounts rest) rest).approvedPrompts.map (·.metadata.id)).Nodup := by
  rw [List.nodup_iff_count_le_one]
  intro id
  by_cases hid : id ∈ (divide (idCounts rest) rest).approvedPrompts.map (·.metadata.id)
  · obtain ⟨prompt, hprompt, rfl⟩ := List.mem_map.mp hid
    rw [List.count_eq_countP, List.countP_map, ← counts_of_approved hprompt]
    exact countP_approved_le (idCounts rest)
  · rw [List.count_eq_zero_of_not_mem hid]
    exact Nat.zero_le 1

end Division

/-! ## The order of the files -/

theorem mergeSort_eq_of_perm [LinearOrder Path] {paths paths' : List Path} (h : paths.Perm paths') :
    paths.mergeSort (· ≤ ·) = paths'.mergeSort (· ≤ ·) := by
  have hperm (paths : List Path) := List.mergeSort_perm paths fun a b => decide (a ≤ b)
  have hsorted (paths : List Path) := List.pairwise_mergeSort' (· ≤ ·) paths
  exact (((hperm paths).trans h).trans (hperm paths').symm).eq_of_pairwise (fun _ _ _ _ => le_antisymm)
    (hsorted paths) (hsorted paths')

/-- What is gathered from checks that answer with one element each. -/
theorem gather_singletons {α β ε : Type} {f : α → Except ε (List β)} {as : List α} {bs : List β}
    (hone : ∀ a bs, f a = .ok bs → ∃ b, bs = [b]) (h : gather f as = .ok bs) :
    List.Forall₂ (fun a b => f a = .ok [b]) as bs := by
  induction as generalizing bs with
  | nil =>
    cases h
    exact .nil
  | cons a as ih =>
    obtain ⟨first, hfirst, h⟩ := bind_eq_ok.mp h
    obtain ⟨rest, hrest, h⟩ := bind_eq_ok.mp h
    obtain ⟨b, rfl⟩ := hone a first hfirst
    cases h
    exact .cons hfirst (ih hrest)

end ManchesterArcana.Events
