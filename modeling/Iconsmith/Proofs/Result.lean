/-! Results of computations that may fail: what is known of the parts of one that
has a result. -/
namespace Iconsmith

variable {ε α β : Type}

/-- Two steps succeed if the first does and the second does with its result. -/
theorem bind_eq_ok {x : Except ε α} {f : α → Except ε β} {r : β} :
    (x >>= f) = .ok r ↔ ∃ a, x = .ok a ∧ f a = .ok r := by
  cases x <;> simp [bind, Except.bind]

theorem map_eq_ok {x : Except ε α} {f : α → β} {r : β} :
    x.map f = .ok r ↔ ∃ a, x = .ok a ∧ f a = r := by
  cases x <;> simp [Except.map]

/-- There is a result for each member of a list. -/
theorem length_of_mapM {f : α → Except ε β} {xs : List α} {ys : List β}
    (h : xs.mapM f = .ok ys) : ys.length = xs.length := by
  induction xs generalizing ys with
  | nil =>
      obtain rfl := Except.ok.inj h
      rfl
  | cons x xs ih =>
      rw [List.mapM_cons] at h
      obtain ⟨y, -, h⟩ := bind_eq_ok.mp h
      obtain ⟨rest, hRest, h⟩ := bind_eq_ok.mp h
      obtain rfl := Except.ok.inj h
      rw [List.length_cons, List.length_cons, ih hRest]

theorem size_of_mapM {f : α → Except ε β} {xs : Array α} {ys : Array β}
    (h : xs.mapM f = .ok ys) : ys.size = xs.size := by
  have hLists : Array.toList <$> xs.mapM f = .ok ys.toList := by
    rw [h]
    rfl
  rw [Array.toList_mapM] at hLists
  exact length_of_mapM hLists

/-- Two computations that start with the same one go on from the same intermediate result. -/
theorem exists_of_shared {γ : Type} {x : Except ε α} {f : α → γ} {g : α → Except ε β} {q : γ} {r : β}
    (hFirst : x.map f = .ok q) (hSecond : (x >>= g) = .ok r) :
    ∃ a, x = .ok a ∧ f a = q ∧ g a = .ok r := by
  obtain ⟨a, ha, hq⟩ := map_eq_ok.mp hFirst
  rw [ha] at hSecond
  exact ⟨a, ha, hq, hSecond⟩

/-- A check that refuses under a condition has let a computation with a result pass. -/
theorem guard_eq_ok {c : Prop} [Decidable c] {e : ε} {next : PUnit → Except ε β} {r : β} :
    (if c then throw e >>= next else next ⟨⟩) = .ok r ↔ ¬c ∧ next ⟨⟩ = .ok r := by
  split
  · next hRefused => exact ⟨nofun, fun h => absurd hRefused h.1⟩
  · next hPassed => exact ⟨fun h => ⟨hPassed, h⟩, fun h => h.2⟩

/-- A check that is only made under a condition. -/
theorem ok_of_optional {c : Prop} [Decidable c] {x : Except ε α} {y : Except ε β} {r : β}
    (h : (if c then x >>= fun _ => y else y) = .ok r) : y = .ok r := by
  split at h
  · exact (bind_eq_ok.mp h).choose_spec.2
  · exact h

end Iconsmith
