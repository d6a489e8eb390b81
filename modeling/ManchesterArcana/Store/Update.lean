import Mathlib.Data.List.Nodup

/-!
# `Store.Update` — collections that are changed by id

A collection is a list of documents, each with an id that `idOf` reads off. The operations insert a document or
change the documents of an id, and what is to be known of them is which documents stay as they are.

A document that has reached a final state is `Spent`: updates and insertions of fresh ids keep it so.
-/

namespace ManchesterArcana.Store

open List (countP_cons map_cons mem_cons mem_cons_of_mem mem_cons_self mem_map mem_map_of_mem)

/-- Change the documents of an id. -/
def updateById {α : Type} (idOf : α → String) (id : String) (f : α → α) (xs : List α) : List α :=
  xs.map fun x => if idOf x = id then f x else x

/-- Change the documents that a filter finds. -/
def updateWhere {α : Type} (p : α → Bool) (f : α → α) (xs : List α) : List α :=
  xs.map fun x => if p x then f x else x

/-- Change the first document that a filter finds. -/
def updateFirst {α : Type} (p : α → Bool) (f : α → α) : List α → List α
  | [] => []
  | x :: xs => if p x then f x :: xs else x :: updateFirst p f xs

variable {α : Type} {idOf : α → String} {id : String} {f : α → α} {p : α → Bool} {xs : List α} {y : α}

theorem mem_of_mem_updateFirst (h : y ∈ updateFirst p f xs) : (∃ x ∈ xs, p x = true ∧ f x = y) ∨ y ∈ xs := by
  induction xs with
  | nil => cases h
  | cons x xs ih =>
    unfold updateFirst at h
    split at h
    · next hp =>
      rcases mem_cons.mp h with rfl | h
      · exact .inl ⟨x, mem_cons_self, hp, rfl⟩
      · exact .inr (mem_cons_of_mem _ h)
    · rcases mem_cons.mp h with rfl | h
      · exact .inr mem_cons_self
      · rcases ih h with ⟨z, hz, hp, hf⟩ | hy
        · exact .inl ⟨z, mem_cons_of_mem _ hz, hp, hf⟩
        · exact .inr (mem_cons_of_mem _ hy)

/-- What the filter does not find is left alone. -/
theorem mem_updateFirst_of_not (hy : y ∈ xs) (hp : p y = false) : y ∈ updateFirst p f xs := by
  induction xs with
  | nil => cases hy
  | cons x xs ih =>
    unfold updateFirst
    rcases mem_cons.mp hy with rfl | hy
    · rw [if_neg (by rw [hp]; exact Bool.false_ne_true)]
      exact mem_cons_self
    · split
      · exact mem_cons_of_mem _ hy
      · exact mem_cons_of_mem _ (ih hy)

/-- Something is changed where the filter finds something. -/
theorem exists_mem_updateFirst (h : ∃ x ∈ xs, p x = true) : ∃ x ∈ xs, p x = true ∧ f x ∈ updateFirst p f xs := by
  induction xs with
  | nil =>
    obtain ⟨x, hx, -⟩ := h
    cases hx
  | cons x xs ih =>
    unfold updateFirst
    by_cases hp : p x = true
    · rw [if_pos hp]
      exact ⟨x, mem_cons_self, hp, mem_cons_self⟩
    · rw [if_neg hp]
      obtain ⟨y, hy, hpy⟩ := h
      have hmem : y ∈ xs := by
        rcases mem_cons.mp hy with rfl | hy
        · exact absurd hpy hp
        · exact hy
      obtain ⟨z, hz, hpz, hfz⟩ := ih ⟨y, hmem, hpy⟩
      exact ⟨z, mem_cons_of_mem _ hz, hpz, mem_cons_of_mem _ hfz⟩

theorem map_updateFirst {β : Type} {g : α → β} (hf : ∀ x, g (f x) = g x) :
    (updateFirst p f xs).map g = xs.map g := by
  induction xs with
  | nil => rfl
  | cons x xs ih =>
    unfold updateFirst
    split
    · rw [map_cons, map_cons, hf]
    · rw [map_cons, map_cons, ih]

theorem mem_updateWhere : y ∈ updateWhere p f xs ↔ (∃ x ∈ xs, p x = true ∧ f x = y) ∨ (y ∈ xs ∧ p y = false) := by
  unfold updateWhere
  rw [mem_map]
  constructor
  · rintro ⟨x, hx, hy⟩
    split at hy
    · next hp => exact .inl ⟨x, hx, hp, hy⟩
    · next hp =>
      subst hy
      exact .inr ⟨hx, Bool.not_eq_true _ ▸ hp⟩
  · rintro (⟨x, hx, hp, hy⟩ | ⟨hy, hp⟩)
    · exact ⟨x, hx, by rw [if_pos hp]; exact hy⟩
    · exact ⟨y, hy, by rw [hp]; rfl⟩

/-- An update by a filter on ids leaves what it does not find alone. -/
theorem mem_updateWhere_of_not (hf : ∀ x, idOf (f x) = idOf x) (hp : ∀ x, idOf x = idOf y → p x = p y)
    (hy : p y = false) : y ∈ updateWhere p f xs ↔ y ∈ xs := by
  rw [mem_updateWhere]
  constructor
  · rintro (⟨x, -, hpx, rfl⟩ | ⟨hmem, -⟩)
    · rw [hp x (hf x).symm, hy] at hpx
      cases hpx
    · exact hmem
  · exact fun h => .inr ⟨h, hy⟩

theorem map_id_updateWhere (hf : ∀ x, idOf (f x) = idOf x) : (updateWhere p f xs).map idOf = xs.map idOf := by
  unfold updateWhere
  rw [List.map_map]
  refine List.map_congr_left fun x _ => ?_
  show idOf (if p x = true then f x else x) = idOf x
  split
  · exact hf x
  · rfl

theorem mem_updateById : y ∈ updateById idOf id f xs ↔
    (∃ x ∈ xs, idOf x = id ∧ f x = y) ∨ (y ∈ xs ∧ idOf y ≠ id) := by
  unfold updateById
  rw [mem_map]
  constructor
  · rintro ⟨x, hx, hy⟩
    split at hy
    · next hid => exact .inl ⟨x, hx, hid, hy⟩
    · next hid =>
      subst hy
      exact .inr ⟨hx, hid⟩
  · rintro (⟨x, hx, hid, hy⟩ | ⟨hy, hid⟩)
    · exact ⟨x, hx, by rw [if_pos hid]; exact hy⟩
    · exact ⟨y, hy, if_neg hid⟩

/-- An update leaves the documents of other ids alone. -/
theorem mem_updateById_of_ne (hf : ∀ x, idOf (f x) = idOf x) (hy : idOf y ≠ id) :
    y ∈ updateById idOf id f xs ↔ y ∈ xs := by
  rw [mem_updateById]
  constructor
  · rintro (⟨x, -, hid, rfl⟩ | ⟨hmem, -⟩)
    · exact absurd ((hf x).trans hid) hy
    · exact hmem
  · exact fun h => .inr ⟨h, hy⟩

/-- A document whose key is not written is not the one updated under its id. -/
theorem mem_updateById_of_unwritten {κ : Type} {key : String → κ} {writes : List κ} (hy : key (idOf y) ∉ writes)
    (hid : key id ∈ writes) (hf : ∀ x, idOf (f x) = idOf x) : y ∈ xs ↔ y ∈ updateById idOf id f xs := by
  refine (mem_updateById_of_ne hf ?_).symm
  rintro rfl
  exact hy hid

theorem map_id_updateById (hf : ∀ x, idOf (f x) = idOf x) : (updateById idOf id f xs).map idOf = xs.map idOf := by
  unfold updateById
  rw [List.map_map]
  refine List.map_congr_left fun x _ => ?_
  show idOf (if idOf x = id then f x else x) = idOf x
  split
  · exact hf x
  · rfl

/-- An insertion leaves the documents of other ids alone. -/
theorem mem_append_of_ne {x : α} (hy : y ≠ x) : y ∈ xs ++ [x] ↔ y ∈ xs := by
  rw [List.mem_append, List.mem_singleton]
  exact or_iff_left hy

theorem nodup_map_append {α β : Type} {f : α → β} {xs : List α} {x : α} (h : (xs.map f).Nodup)
    (hx : ∀ y ∈ xs, f y ≠ f x) : ((xs ++ [x]).map f).Nodup := by
  rw [List.map_append, List.nodup_append]
  refine ⟨h, by simp, fun b hb b' hb' => ?_⟩
  obtain rfl := List.mem_singleton.mp hb'
  obtain ⟨y, hy, rfl⟩ := mem_map.mp hb
  exact hx y hy

/-- A count, with the document of an id counted by itself. -/
theorem countP_of_mem {x : α} (p : α → Bool) (h : (xs.map idOf).Nodup) (hx : x ∈ xs) :
    xs.countP p = xs.countP (fun y => p y && decide (idOf y ≠ idOf x)) + if p x = true then 1 else 0 := by
  induction xs with
  | nil => cases hx
  | cons z xs ih =>
    rw [map_cons, List.nodup_cons] at h
    rw [countP_cons, countP_cons]
    rcases mem_cons.mp hx with rfl | hmem
    · -- no other document has the id
      have hothers : xs.countP (fun y => p y && decide (idOf y ≠ idOf x)) = xs.countP p := by
        refine List.countP_congr fun y hy => ?_
        have hne : idOf y ≠ idOf x := fun heq => h.1 (heq ▸ mem_map_of_mem hy)
        rw [decide_eq_true hne, Bool.and_true]
      rw [hothers, decide_eq_false (not_not.mpr rfl), Bool.and_false, if_neg Bool.false_ne_true]
      omega
    · have hne : idOf z ≠ idOf x := fun heq => h.1 (heq ▸ mem_map_of_mem hmem)
      rw [ih h.2 hmem, decide_eq_true hne, Bool.and_true]
      omega

theorem countP_updateById {x : α} (h : (xs.map idOf).Nodup) (hx : x ∈ xs) (hid : idOf x = id) :
    (updateById idOf id f xs).countP p =
      xs.countP (fun y => p y && decide (idOf y ≠ id)) + if p (f x) = true then 1 else 0 := by
  subst hid
  induction xs with
  | nil => cases hx
  | cons z xs ih =>
    rw [map_cons, List.nodup_cons] at h
    show (List.countP p ((if idOf z = idOf x then f z else z) :: updateById idOf (idOf x) f xs)) = _
    rw [countP_cons, countP_cons]
    rcases mem_cons.mp hx with rfl | hmem
    · have hothers : updateById idOf (idOf x) f xs = xs := by
        refine (List.map_congr_left fun y hy => ?_).trans (List.map_id xs)
        exact if_neg fun (heq : idOf y = idOf x) => h.1 (heq ▸ mem_map_of_mem hy)
      have hcount : xs.countP (fun y => p y && decide (idOf y ≠ idOf x)) = xs.countP p := by
        refine List.countP_congr fun y hy => ?_
        have hne : idOf y ≠ idOf x := fun heq => h.1 (heq ▸ mem_map_of_mem hy)
        rw [decide_eq_true hne, Bool.and_true]
      rw [hothers, hcount, if_pos rfl, decide_eq_false (not_not.mpr rfl), Bool.and_false, if_neg Bool.false_ne_true]
      omega
    · have hne : idOf z ≠ idOf x := fun heq => h.1 (heq ▸ mem_map_of_mem hmem)
      rw [ih h.2 hmem, if_neg hne, decide_eq_true hne, Bool.and_true]
      omega

/-! ## Spent documents -/

/-- **There is a document of this id, and it is not active any more.** -/
def Spent {α : Type} (idOf : α → String) (isActive : α → Prop) (id : String) (xs : List α) : Prop :=
  (∃ x ∈ xs, idOf x = id) ∧ ∀ x ∈ xs, idOf x = id → ¬ isActive x

section Spent

variable {α : Type} {idOf : α → String} {isActive : α → Prop} {id id' : String} {f : α → α} {xs : List α}

theorem Spent.map (h : Spent idOf isActive id xs) (hid : ∀ x, idOf (f x) = idOf x)
    (hf : ∀ x, isActive (f x) → isActive x) : Spent idOf isActive id (xs.map f) := by
  obtain ⟨⟨x, hx, hxid⟩, hall⟩ := h
  refine ⟨⟨f x, mem_map_of_mem hx, (hid x).trans hxid⟩, fun y hy hyid hactive => ?_⟩
  obtain ⟨z, hz, rfl⟩ := mem_map.mp hy
  exact hall z hz ((hid z).symm.trans hyid) (hf z hactive)

theorem Spent.update (h : Spent idOf isActive id xs) (hid : ∀ x, idOf (f x) = idOf x)
    (hf : ∀ x, isActive (f x) → isActive x) : Spent idOf isActive id (updateById idOf id' f xs) := by
  refine h.map (fun x => ?_) fun x => ?_ <;> split
  exacts [hid x, rfl, hf x, fun hactive => hactive]

theorem Spent.updateWhere {p : α → Bool} (h : Spent idOf isActive id xs) (hid : ∀ x, idOf (f x) = idOf x)
    (hf : ∀ x, isActive (f x) → isActive x) : Spent idOf isActive id (Store.updateWhere p f xs) := by
  refine h.map (fun x => ?_) fun x => ?_ <;> split
  exacts [hid x, rfl, hf x, fun hactive => hactive]

theorem Spent.append {x : α} (h : Spent idOf isActive id xs) (hx : idOf x ≠ id) :
    Spent idOf isActive id (xs ++ [x]) := by
  obtain ⟨⟨y, hy, hyid⟩, hall⟩ := h
  refine ⟨⟨y, List.mem_append_left _ hy, hyid⟩, fun z hz hzid => ?_⟩
  rcases List.mem_append.mp hz with hz | hz
  · exact hall z hz hzid
  · rw [List.mem_singleton.mp hz] at hzid
    exact absurd hzid hx

/-- An update to a final state spends the documents of its id. -/
theorem spent_of_update (hex : ∃ x ∈ xs, idOf x = id) (hid : ∀ x, idOf (f x) = idOf x)
    (hf : ∀ x, ¬ isActive (f x)) : Spent idOf isActive id (updateById idOf id f xs) := by
  obtain ⟨x, hx, hxid⟩ := hex
  refine ⟨⟨f x, mem_updateById.mpr (.inl ⟨x, hx, hxid, rfl⟩), (hid x).trans hxid⟩, fun y hy hyid => ?_⟩
  rcases mem_updateById.mp hy with ⟨z, -, -, rfl⟩ | ⟨-, hne⟩
  · exact hf z
  · exact absurd hyid hne

end Spent

end ManchesterArcana.Store
