namespace Dissect

variable {ε α β : Type} {x : Except ε α}

theorem bind_eq_ok_iff {f : α → Except ε β} {b : β} :
    x >>= f = .ok b ↔ ∃ a, x = .ok a ∧ f a = .ok b := by
  constructor
  · intro h
    cases x with
    | error e => cases h
    | ok a => exact ⟨a, rfl, h⟩
  · rintro ⟨a, rfl, h⟩
    exact h

theorem map_eq_ok_iff {f : α → β} {b : β} : x.map f = .ok b ↔ ∃ a, x = .ok a ∧ f a = b := by
  cases x <;> simp [Except.map]

theorem mapError_eq_ok_iff {δ : Type} {f : ε → δ} {a : α} : x.mapError f = .ok a ↔ x = .ok a := by
  cases x with
  | error e => exact ⟨nofun, nofun⟩
  | ok b => constructor <;> rintro ⟨⟩ <;> rfl

theorem exists_eq_ok_iff : (∃ a, x = .ok a) ↔ x.isOk = true := by
  cases x with
  | error e => exact ⟨nofun, nofun⟩
  | ok a => exact ⟨fun _ => rfl, fun _ => ⟨a, rfl⟩⟩

instance decidableExistsEqOk : Decidable (∃ a, x = .ok a) :=
  decidable_of_iff _ exists_eq_ok_iff.symm

/-- Every element has a value, and the values are those of the elements in order. -/
theorem mapM_eq_ok_iff {f : α → Except ε β} {xs : List α} {ys : List β} :
    xs.mapM f = .ok ys
      ↔ (∀ x ∈ xs, ∃ y, f x = .ok y) ∧ ys = xs.filterMap fun x => (f x).toOption := by
  induction xs generalizing ys with
  | nil =>
      constructor
      · rintro ⟨⟩
        exact ⟨nofun, rfl⟩
      · rintro ⟨-, rfl⟩
        rfl
  | cons x rest ih =>
      rw [List.mapM_cons, bind_eq_ok_iff]
      constructor
      · rintro ⟨y, hy, h⟩
        obtain ⟨zs, hzs, ⟨⟩⟩ := bind_eq_ok_iff.mp h
        obtain ⟨hrest, rfl⟩ := ih.mp hzs
        refine ⟨List.forall_mem_cons.mpr ⟨⟨y, hy⟩, hrest⟩, ?_⟩
        rw [List.filterMap_cons, hy]
        rfl
      · rintro ⟨hall, rfl⟩
        obtain ⟨⟨y, hy⟩, hrest⟩ := List.forall_mem_cons.mp hall
        refine ⟨y, hy, bind_eq_ok_iff.mpr ⟨_, ih.mpr ⟨hrest, rfl⟩, ?_⟩⟩
        rw [List.filterMap_cons, hy]
        rfl

theorem filterAuxM_eq_ok_iff {f : α → Except ε Bool} {xs found ys : List α} :
    xs.filterAuxM f found = .ok ys
      ↔ (∀ x ∈ xs, ∃ b, f x = .ok b)
        ∧ ys = (xs.filter fun x => (f x).toOption == some true).reverse ++ found := by
  induction xs generalizing found with
  | nil =>
      constructor
      · rintro ⟨⟩
        exact ⟨nofun, rfl⟩
      · rintro ⟨-, rfl⟩
        rfl
  | cons x rest ih =>
      have hkept (b : Bool) (hb : f x = .ok b) :
          ((x :: rest).filter fun x => (f x).toOption == some true).reverse ++ found
            = (rest.filter fun x => (f x).toOption == some true).reverse
              ++ bif b then x :: found else found := by
        rw [List.filter_cons, hb]
        cases b <;> simp [Except.toOption]
      rw [List.filterAuxM, bind_eq_ok_iff]
      constructor
      · rintro ⟨b, hb, h⟩
        obtain ⟨hrest, rfl⟩ := ih.mp h
        exact ⟨List.forall_mem_cons.mpr ⟨⟨b, hb⟩, hrest⟩, (hkept b hb).symm⟩
      · rintro ⟨hall, rfl⟩
        obtain ⟨⟨b, hb⟩, hrest⟩ := List.forall_mem_cons.mp hall
        exact ⟨b, hb, ih.mpr ⟨hrest, hkept b hb⟩⟩

theorem filterM_eq_ok_iff {f : α → Except ε Bool} {xs ys : List α} :
    xs.filterM f = .ok ys
      ↔ (∀ x ∈ xs, ∃ b, f x = .ok b) ∧ ys = xs.filter fun x => (f x).toOption == some true := by
  rw [List.filterM, bind_eq_ok_iff]
  constructor
  · rintro ⟨found, hfound, ⟨⟩⟩
    obtain ⟨hall, rfl⟩ := filterAuxM_eq_ok_iff.mp hfound
    exact ⟨hall, by rw [List.append_nil, List.reverse_reverse]⟩
  · rintro ⟨hall, rfl⟩
    refine ⟨_, filterAuxM_eq_ok_iff.mpr ⟨hall, rfl⟩, ?_⟩
    rw [List.append_nil, List.reverse_reverse]
    rfl

theorem filter_some_of_ne_empty {text : String} (h : text ≠ "") :
    (some text).filter (!·.isEmpty) = some text := by
  rw [Option.filter_some, if_pos]
  simpa only [Bool.not_eq_true', String.isEmpty_eq_false_iff] using h

end Dissect
