import Iconsmith.Codec.Reader
import Iconsmith.Proofs.Result

/-! What is known of the results of readings. A reading that fails has no result,
so that every check that it makes can be used for what comes behind it. -/
namespace Iconsmith.Codec

variable {σ α β : Type} {P : β → Prop} {Q : α → Prop}

/-! ### Steps with a state -/

/-- Every result of the steps has a property, in whatever state they start. -/
def Yields (steps : StateT σ (Except Fault) α) (P : α → Prop) : Prop :=
  ∀ s r, steps.run s = .ok r → P r.1

theorem yields_pure {x : β} (h : P x) : Yields (pure x : StateT σ (Except Fault) β) P := by
  rintro s r hRun
  obtain rfl := Except.ok.inj hRun
  exact h

theorem yields_throw (f : Fault) : Yields (throw f : StateT σ (Except Fault) β) P := by
  rintro s r hRun
  cases hRun

/-- What is known of the first result can be used for the second. -/
theorem Yields.bind {steps : StateT σ (Except Fault) α} {next : α → StateT σ (Except Fault) β}
    (hFirst : Yields steps Q) (hNext : ∀ x, Q x → Yields (next x) P) :
    Yields (steps >>= next) P := by
  intro s r hRun
  rw [StateT.run_bind] at hRun
  obtain ⟨⟨x, t⟩, hx, hRest⟩ := bind_eq_ok.mp hRun
  exact hNext x (hFirst s _ hx) t r hRest

/-- The property may come from the last steps alone. -/
theorem yields_bind {steps : StateT σ (Except Fault) α} {next : α → StateT σ (Except Fault) β}
    (h : ∀ x, Yields (next x) P) : Yields (steps >>= next) P :=
  Yields.bind (Q := fun _ => True) (fun _ _ _ => trivial) fun x _ => h x

theorem yields_throw_bind (f : Fault) (next : α → StateT σ (Except Fault) β) :
    Yields (throw f >>= next) P :=
  Yields.bind (Q := fun _ => False) (yields_throw f) fun _ h => h.elim

/-- What comes behind a check may rely on it. -/
theorem yields_guard {c : Prop} [Decidable c] {f : Fault}
    {next : PUnit → StateT σ (Except Fault) β} (h : ¬c → Yields (next ⟨⟩) P) :
    Yields (if c then throw f >>= next else next ⟨⟩) P := by
  split
  · exact yields_throw_bind _ _
  · next hPassed => exact h hPassed

/-- What steps yield holds of their result. -/
theorem Yields.run'_eq_ok {steps : StateT σ (Except Fault) β} (h : Yields steps P) {s : σ} {x : β}
    (hRun : steps.run' s = .ok x) : P x := by
  obtain ⟨r, hr, rfl⟩ := map_eq_ok.mp hRun
  exact h s r hr

/-! ### Readings of a file -/

namespace Reading

/-- Every result of a reading has a property, whatever the file is and wherever the
reading starts. -/
def Yields (r : Reading α) (P : α → Prop) : Prop := ∀ b, Codec.Yields (r.run b) P

theorem yields_pure {x : β} (h : P x) : Yields (pure x : Reading β) P :=
  fun _ => Codec.yields_pure h

theorem yields_throw (f : Fault) : Yields (throw f : Reading β) P := fun _ => Codec.yields_throw f

/-- Readings one after the other yield what the last one does. -/
theorem Yields.bind {r : Reading α} {next : α → Reading β} (hFirst : Yields r Q)
    (hNext : ∀ x, Q x → Yields (next x) P) : Yields (r >>= next) P :=
  fun b => Codec.Yields.bind (hFirst b) fun x hx => hNext x hx b

theorem yields_bind {r : Reading α} {next : α → Reading β} (h : ∀ x, Yields (next x) P) :
    Yields (r >>= next) P :=
  fun b => Codec.yields_bind fun x => h x b

theorem yields_throw_bind (f : Fault) (next : α → Reading β) : Yields (throw f >>= next) P :=
  fun b => Codec.yields_throw_bind f fun x => (next x).run b

/-- Behind a check the opposite of its condition is known. -/
theorem yields_guard {c : Prop} [Decidable c] {f : Fault} {next : PUnit → Reading β}
    (h : ¬c → Yields (next ⟨⟩) P) : Yields (if c then throw f >>= next else next ⟨⟩) P := by
  split
  · exact yields_throw_bind _ _
  · next hPassed => exact h hPassed

/-- What a reading yields holds of its result. -/
theorem Yields.result_eq_ok {r : Reading β} (h : Yields r P) {b : ByteArray} {i : Nat} {x : β}
    (hResult : r.result b i = .ok x) : P x :=
  (h b).run'_eq_ok hResult

/-- The first part of a reading with a result has one, and the rest goes on where
it left off. -/
theorem run_bind_eq_ok {r : Reading α} {next : α → Reading β} {b : ByteArray} {i : Nat}
    {p : β × Nat} (h : ((r >>= next).run b).run i = .ok p) :
    ∃ a j, (r.run b).run i = .ok (a, j) ∧ ((next a).run b).run j = .ok p := by
  obtain ⟨⟨a, j⟩, hFirst, hRest⟩ := bind_eq_ok.mp h
  exact ⟨a, j, hFirst, hRest⟩

/-- A result of two readings comes from a result of the first. -/
theorem result_bind_eq_ok {r : Reading α} {next : α → Reading β} {b : ByteArray} {i : Nat} {x : β}
    (h : (r >>= next).result b i = .ok x) :
    ∃ a j, (r.run b).run i = .ok (a, j) ∧ (next a).result b j = .ok x := by
  obtain ⟨p, hRun, rfl⟩ := map_eq_ok.mp h
  obtain ⟨a, j, hFirst, hRest⟩ := run_bind_eq_ok hRun
  exact ⟨a, j, hFirst, map_eq_ok.mpr ⟨p, hRest, rfl⟩⟩

/-- A header that is read alone and in front of the rest says the same both times. -/
theorem exists_of_shared_result {γ : Type} {r : Reading α} {f : α → γ} {next : α → Reading β}
    {b : ByteArray} {i : Nat} {q : γ} {x : β} (hFirst : (r.result b i).map f = .ok q)
    (hSecond : (r >>= next).result b i = .ok x) :
    ∃ a j, f a = q ∧ (next a).result b j = .ok x := by
  obtain ⟨a, ha, hq⟩ := map_eq_ok.mp hFirst
  obtain ⟨a', j, hRun, hRest⟩ := result_bind_eq_ok hSecond
  obtain rfl := Except.ok.inj (ha.symm.trans (map_eq_ok.mpr ⟨_, hRun, rfl⟩))
  exact ⟨a, j, hq, hRest⟩

/-- To advance is to pass bytes that are there. -/
theorem run_advance_eq_ok {n : Nat} {b : ByteArray} {i j k : Nat}
    (h : ((advance n).run b).run i = .ok (k, j)) : j = i + n ∧ n ≤ b.size - i := by
  obtain ⟨_, _, hPosition, h⟩ := run_bind_eq_ok h
  cases hPosition
  obtain ⟨_, _, hLeft, h⟩ := run_bind_eq_ok h
  cases hLeft
  split at h
  · cases h
  · cases h
    exact ⟨rfl, by omega⟩

/-- A byte that has been read was there. -/
theorem run_byte_eq_ok {b : ByteArray} {i j v : Nat} (h : (byte.run b).run i = .ok (v, j)) :
    j = i + 1 ∧ i < b.size := by
  obtain ⟨_, _, hFile, h⟩ := run_bind_eq_ok h
  cases hFile
  obtain ⟨_, _, hAdvance, h⟩ := run_bind_eq_ok h
  cases h
  obtain ⟨rfl, hSize⟩ := run_advance_eq_ok hAdvance
  exact ⟨rfl, by omega⟩

end Reading

end Iconsmith.Codec
